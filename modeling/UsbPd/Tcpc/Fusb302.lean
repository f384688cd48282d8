import Mathlib.Algebra.Ring.Int.Defs
import Mathlib.Algebra.Ring.Nat
import Mathlib.Tactic.Common

/-!
# The FUSB302 port controller

The chip is a file of 8-bit registers reached by `tcpcRead` and `tcpcWrite`;
the driver keeps a shadow of what it last selected (`fusb302_chip_state`). The
driver operations below are the read-modify-write sequences of `FUSB302.cpp`.
Every I2C transfer succeeds here. What the measurement block of the chip
reports is an input: a `CcReading` holds the STATUS0 values of one call of
`fusb302_tcpm_get_cc`.
-/

namespace UsbPd

/-- Result codes of the driver operations. -/
inductive EcResult where
  | success
  | errorUnknown
  | errorInval
  | errorUnimplemented
  deriving DecidableEq, Repr

/-- `enum tcpc_cc_voltage_status`. -/
inductive CcVoltage where
  | open
  | ra
  | rd
  | snkDef
  | snk15
  | snk30
  deriving DecidableEq, Repr

/-- The numbers behind the enumeration; `get_snk_polarity` compares them. -/
def CcVoltage.toNat : CcVoltage → Nat
  | .open => 0
  | .ra => 1
  | .rd => 2
  | .snkDef => 5
  | .snk15 => 6
  | .snk30 => 7

/-- `enum tcpc_cc_pull`. -/
inductive CcPull where
  | ra
  | rp
  | rd
  | open
  deriving DecidableEq, Repr

/-- `enum tcpc_rp_value`. -/
inductive RpValue where
  | usb
  | rp1A5
  | rp3A0
  | reserved
  deriving DecidableEq, Repr

/-- `enum tcpm_transmit_type`, the types that `fusb302_tcpm_transmit` accepts. -/
inductive TransmitType where
  | sop
  | hardReset
  | bistMode2
  deriving DecidableEq, Repr

/-- The registers the driver writes. -/
inductive TcpcReg where
  | switches0 | switches1 | measure | control0 | control1 | control2 | control3
  | mask | power | reset | maska | maskb
  deriving DecidableEq, Repr

/-- Register contents. -/
structure Registers where
  switches0 : BitVec 8
  switches1 : BitVec 8
  measure : BitVec 8
  control0 : BitVec 8
  control1 : BitVec 8
  control2 : BitVec 8
  control3 : BitVec 8
  mask : BitVec 8
  power : BitVec 8
  maska : BitVec 8
  maskb : BitVec 8
  deriving DecidableEq

/-- The contents that power-on and `TCPC_REG_RESET_SW_RESET` leave. -/
def Registers.default : Registers where
  switches0 := 0x03
  switches1 := 0x20
  measure := 0x31
  control0 := 0x24
  control1 := 0x00
  control2 := 0x02
  control3 := 0x06
  mask := 0x00
  power := 0x01
  maska := 0x00
  maskb := 0x00

/-- `struct fusb302_chip_state`. -/
structure ChipState where
  ccPolarity : Int
  vconnEnabled : Bool
  pullingUp : Bool
  rxEnable : Bool
  mdacVnc : BitVec 8
  mdacRd : BitVec 8
  deriving DecidableEq

/-- The chip together with the driver's `fusb302_chip_state` for the port. -/
structure Fusb302 where
  regs : Registers
  ccPolarity : Int
  vconnEnabled : Bool
  pullingUp : Bool
  rxEnable : Bool
  mdacVnc : BitVec 8
  mdacRd : BitVec 8
  deriving DecidableEq

namespace Fusb302

/-- Registers at power-on, shadow state zero as static data. -/
def powerOn : Fusb302 where
  regs := Registers.default
  ccPolarity := 0
  vconnEnabled := false
  pullingUp := false
  rxEnable := false
  mdacVnc := 0
  mdacRd := 0

/-! Register bits, under the names of `FUSB302.h`. -/

def switches0Cc2PuEn : BitVec 8 := 0x80
def switches0Cc1PuEn : BitVec 8 := 0x40
def switches0VconnCc2 : BitVec 8 := 0x20
def switches0VconnCc1 : BitVec 8 := 0x10
def switches0MeasCc2 : BitVec 8 := 0x08
def switches0MeasCc1 : BitVec 8 := 0x04
def switches0Cc2PdEn : BitVec 8 := 0x02
def switches0Cc1PdEn : BitVec 8 := 0x01

def switches1PowerRole : BitVec 8 := 0x80
def switches1DataRole : BitVec 8 := 0x10
def switches1AutoGcrc : BitVec 8 := 0x04
def switches1Txcc2En : BitVec 8 := 0x02
def switches1Txcc1En : BitVec 8 := 0x01

def control0TxFlush : BitVec 8 := 0x40
def control0IntMask : BitVec 8 := 0x20
def control0HostCurMask : BitVec 8 := 0x0C
def control0TxStart : BitVec 8 := 0x01
def control1BistMode2 : BitVec 8 := 0x10
def control1RxFlush : BitVec 8 := 0x04
def control2Toggle : BitVec 8 := 0x01
def control3SendHardReset : BitVec 8 := 0x40
def control3AutoRetry : BitVec 8 := 0x01
def resetPdReset : BitVec 8 := 0x02
def resetSwReset : BitVec 8 := 0x01
def powerPwrAll : BitVec 8 := 0x0F

def maskCrcChk : BitVec 8 := 0x10
def maskAlert : BitVec 8 := 0x08
def maskCollision : BitVec 8 := 0x02
def maskBcLvl : BitVec 8 := 0x01
def maskaRetryFail : BitVec 8 := 0x10
def maskaHardSent : BitVec 8 := 0x08
def maskaTxSuccess : BitVec 8 := 0x04
def maskaHardReset : BitVec 8 := 0x01
def maskbGcrcSent : BitVec 8 := 0x01

def status0Comp : BitVec 8 := 0x20
def status0BcLvl : BitVec 8 := 0x03

/-- `TCPC_REG_MEASURE_MDAC_MV(mv)`. -/
def measureMdacMv (mv : Nat) : BitVec 8 := BitVec.ofNat 8 (mv / 42) &&& 0x3F

/-- What a register reads. -/
def readReg (regs : Registers) : TcpcReg → BitVec 8
  | .switches0 => regs.switches0
  | .switches1 => regs.switches1
  | .measure => regs.measure
  | .control0 => regs.control0
  | .control1 => regs.control1
  | .control2 => regs.control2
  | .control3 => regs.control3
  | .mask => regs.mask
  | .power => regs.power
  | .reset => 0
  | .maska => regs.maska
  | .maskb => regs.maskb

/-- The registers after a write. The flush, start and send bits clear
themselves, so they are never read back; SW_RESET restores every register,
PD_RESET resets the PD logic and leaves these registers alone. -/
def writeReg (regs : Registers) (r : TcpcReg) (v : BitVec 8) : Registers :=
  match r with
  | .switches0 => { regs with switches0 := v }
  | .switches1 => { regs with switches1 := v }
  | .measure => { regs with measure := v }
  | .control0 => { regs with control0 := v &&& ~~~(control0TxFlush ||| control0TxStart) }
  | .control1 => { regs with control1 := v &&& ~~~control1RxFlush }
  | .control2 => { regs with control2 := v }
  | .control3 => { regs with control3 := v &&& ~~~control3SendHardReset }
  | .mask => { regs with mask := v }
  | .power => { regs with power := v }
  | .reset => if v &&& resetSwReset = 0 then regs else Registers.default
  | .maska => { regs with maska := v }
  | .maskb => { regs with maskb := v }

/-- `tcpc_read`. -/
def tcpcRead (c : Fusb302) (r : TcpcReg) : BitVec 8 := readReg c.regs r

/-- `tcpc_write`. -/
def tcpcWrite (c : Fusb302) (r : TcpcReg) (v : BitVec 8) : Fusb302 :=
  { c with regs := writeReg c.regs r v }

/-- `fusb302_pd_reset`. -/
def pdReset (c : Fusb302) : Fusb302 := c.tcpcWrite .reset resetPdReset

/-- `fusb302_flush_rx_fifo`. -/
def flushRxFifo (c : Fusb302) : Fusb302 := c.tcpcWrite .control1 control1RxFlush

/-- `fusb302_flush_tx_fifo`. -/
def flushTxFifo (c : Fusb302) : Fusb302 :=
  c.tcpcWrite .control0 (c.tcpcRead .control0 ||| control0TxFlush)

/-- `fusb302_auto_goodcrc_enable`. -/
def autoGoodcrcEnable (c : Fusb302) (enable : Bool) : Fusb302 :=
  let reg := c.tcpcRead .switches1
  c.tcpcWrite .switches1 (if enable then reg ||| switches1AutoGcrc else reg &&& ~~~switches1AutoGcrc)

/-- `fusb302_tcpm_set_polarity`. -/
def setPolarity (c : Fusb302) (polarity : Int) : Fusb302 :=
  let reg := c.tcpcRead .switches0 &&& ~~~switches0VconnCc1 &&& ~~~switches0VconnCc2
  let reg := if c.vconnEnabled then
      reg ||| (if polarity ≠ 0 then switches0VconnCc1 else switches0VconnCc2)
    else reg
  let reg := reg &&& ~~~switches0MeasCc1 &&& ~~~switches0MeasCc2
  let reg := reg ||| (if polarity ≠ 0 then switches0MeasCc2 else switches0MeasCc1)
  let c := c.tcpcWrite .switches0 reg
  let reg := c.tcpcRead .switches1 &&& ~~~switches1Txcc1En &&& ~~~switches1Txcc2En
  let reg := reg ||| (if polarity ≠ 0 then switches1Txcc2En else switches1Txcc1En)
  { c.tcpcWrite .switches1 reg with ccPolarity := polarity }

/-- `fusb302_tcpm_set_vconn`. -/
def setVconn (c : Fusb302) (enable : Bool) : Fusb302 :=
  let c := { c with vconnEnabled := enable }
  if enable then
    c.setPolarity c.ccPolarity
  else
    c.tcpcWrite .switches0 (c.tcpcRead .switches0 &&& ~~~switches0VconnCc1 &&& ~~~switches0VconnCc2)

/-- `fusb302_tcpm_set_cc`. -/
def setCc (c : Fusb302) : CcPull → EcResult × Fusb302
  | .rp =>
    let reg := c.tcpcRead .switches0 &&& ~~~(switches0Cc2PuEn ||| switches0Cc1PuEn |||
      switches0Cc1PdEn ||| switches0Cc2PdEn ||| switches0VconnCc1 ||| switches0VconnCc2)
    let reg := reg ||| switches0Cc1PuEn ||| switches0Cc2PuEn
    let reg := if c.vconnEnabled then
        reg ||| (if c.ccPolarity ≠ 0 then switches0VconnCc1 else switches0VconnCc2)
      else reg
    (.success, { c.tcpcWrite .switches0 reg with pullingUp := true })
  | .rd =>
    let c := c.tcpcWrite .control2 (c.tcpcRead .control2 &&& ~~~control2Toggle)
    let reg := c.tcpcRead .switches0 &&& ~~~switches0Cc2PuEn &&& ~~~switches0Cc1PuEn
    let reg := reg ||| switches0Cc1PdEn ||| switches0Cc2PdEn
    (.success, { c.tcpcWrite .switches0 reg with pullingUp := false })
  | .open =>
    let c := c.tcpcWrite .control2 (c.tcpcRead .control2 &&& ~~~control2Toggle)
    let reg := c.tcpcRead .switches0 &&& ~~~switches0Cc1PuEn &&& ~~~switches0Cc2PuEn &&&
      ~~~switches0Cc1PdEn &&& ~~~switches0Cc2PdEn
    (.success, { c.tcpcWrite .switches0 reg with pullingUp := false })
  | .ra => (.errorUnimplemented, c)

/-- `fusb302_tcpm_set_msg_header`. -/
def setMsgHeader (c : Fusb302) (powerRole dataRole : Bool) : Fusb302 :=
  let reg := c.tcpcRead .switches1 &&& ~~~switches1PowerRole &&& ~~~switches1DataRole
  let reg := if powerRole then reg ||| switches1PowerRole else reg
  let reg := if dataRole then reg ||| switches1DataRole else reg
  c.tcpcWrite .switches1 reg

/-- `fusb302_tcpm_set_rx_enable`. The shadow flag is written first; without a
polarity nothing else happens. -/
def setRxEnable (c : Fusb302) (enable : Bool) : EcResult × Fusb302 :=
  let c := { c with rxEnable := enable }
  let reg := c.tcpcRead .switches0 &&& ~~~switches0MeasCc1 &&& ~~~switches0MeasCc2
  if enable then
    if c.ccPolarity ≠ 0 ∧ c.ccPolarity ≠ 1 then
      (.errorUnknown, c)
    else
      let c := c.tcpcWrite .switches0
        (reg ||| (if c.ccPolarity = 0 then switches0MeasCc1 else switches0MeasCc2))
      let c := c.tcpcWrite .mask (c.tcpcRead .mask ||| maskBcLvl)
      (.success, c.flushRxFifo.autoGoodcrcEnable true)
  else
    let c := c.tcpcWrite .switches0 reg
    let c := c.tcpcWrite .mask (c.tcpcRead .mask &&& ~~~maskBcLvl)
    (.success, c.autoGoodcrcEnable false)

/-- `fusb302_tcpm_select_rp_value`. -/
def selectRpValue (c : Fusb302) (rp : RpValue) : Fusb302 :=
  let reg := c.tcpcRead .control0 &&& ~~~control0HostCurMask
  match rp with
  | .rp1A5 =>
    { c with mdacVnc := measureMdacMv 1600, mdacRd := measureMdacMv 400 }.tcpcWrite .control0
      (reg ||| 0x08)
  | .rp3A0 =>
    { c with mdacVnc := measureMdacMv 2600, mdacRd := measureMdacMv 800 }.tcpcWrite .control0
      (reg ||| 0x0C)
  | .usb | .reserved =>
    { c with mdacVnc := measureMdacMv 1600, mdacRd := measureMdacMv 200 }.tcpcWrite .control0
      (reg ||| 0x04)

/-- `fusb302_tcpm_init`. -/
def init (c : Fusb302) : Fusb302 :=
  let c := { c with
    ccPolarity := -1, mdacVnc := measureMdacMv 1600, mdacRd := measureMdacMv 200 }
  let c := c.tcpcWrite .reset resetSwReset
  let c := c.tcpcWrite .control3 (c.tcpcRead .control3 ||| control3AutoRetry ||| 0x06)
  let c := c.tcpcWrite .mask
    (0xFF &&& ~~~maskBcLvl &&& ~~~maskCollision &&& ~~~maskAlert &&& ~~~maskCrcChk)
  let c := c.tcpcWrite .maska
    (0xFF &&& ~~~maskaRetryFail &&& ~~~maskaHardSent &&& ~~~maskaTxSuccess &&& ~~~maskaHardReset)
  let c := c.tcpcWrite .maskb (0xFF &&& ~~~maskbGcrcSent)
  let c := c.tcpcWrite .control0 (c.tcpcRead .control0 &&& ~~~control0IntMask)
  let c := (c.setPolarity 0).setVconn false
  (c.autoGoodcrcEnable false).tcpcWrite .power powerPwrAll

/-- `fusb302_tcpm_release`. -/
def release (_ : Fusb302) : EcResult := .errorUnimplemented

/-- `fusb302_tcpm_transmit`, as far as the registers go: the bytes of an SOP
message go to the transmit FIFO. -/
def transmit (c : Fusb302) (type : TransmitType) : Fusb302 :=
  let c := c.flushTxFifo
  match type with
  | .sop => c
  | .hardReset => c.tcpcWrite .control3 (c.tcpcRead .control3 ||| control3SendHardReset)
  | .bistMode2 =>
    let c := c.tcpcWrite .control1 (c.tcpcRead .control1 ||| control1BistMode2)
    let c := c.tcpcWrite .control0 (c.tcpcRead .control0 ||| control0TxStart)
    c.tcpcWrite .control1 (c.tcpcRead .control1 &&& ~~~control1BistMode2)

end Fusb302

/-- What STATUS0 reads at the measurement points of one `fusb302_tcpm_get_cc`:
against `mdac_vnc` and then `mdac_rd` on each pin as a source, the BC_LVL field
of each pin as a sink. -/
structure CcReading where
  vnc1 : BitVec 8
  rd1 : BitVec 8
  vnc2 : BitVec 8
  rd2 : BitVec 8
  bcLvl1 : BitVec 8
  bcLvl2 : BitVec 8
  deriving DecidableEq

namespace Fusb302

/-- `fusb302_convert_bc_lvl`. -/
def convertBcLvl (c : Fusb302) (bcLvl : BitVec 8) : CcVoltage :=
  if c.pullingUp then
    if bcLvl = 0 then .ra else if bcLvl.toNat < 3 then .rd else .open
  else if bcLvl = 1 then .snkDef
  else if bcLvl = 2 then .snk15
  else if bcLvl = 3 then .snk30
  else .open

/-- `fusb302_measure_cc_pin_source`: the pin's pull-up and measure switch are
set for the measurement and SWITCHES0 is restored after it. -/
def measureCcPinSource (c : Fusb302) (pin2 : Bool) (vnc rd : BitVec 8) : CcVoltage × Fusb302 :=
  let saved := c.tcpcRead .switches0
  let reg := saved &&& ~~~(switches0MeasCc1 ||| switches0MeasCc2)
  let reg := reg ||| (if pin2 then switches0Cc2PuEn else switches0Cc1PuEn)
  let reg := reg ||| (if pin2 then switches0MeasCc2 else switches0MeasCc1)
  let c := (c.tcpcWrite .switches0 reg).tcpcWrite .measure c.mdacVnc
  if vnc &&& status0Comp = 0 then
    let c := c.tcpcWrite .measure c.mdacRd
    (if rd &&& status0Comp = 0 then .ra else .rd, c.tcpcWrite .switches0 saved)
  else
    (.open, c.tcpcWrite .switches0 saved)

/-- `fusb302_detect_cc_pin_source_manual`: with VCONN on only the pin of the
polarity is measured and the other level stays what it was. -/
def detectCcPinSourceManual (c : Fusb302) (r : CcReading) (cc1 cc2 : CcVoltage) :
    CcVoltage × CcVoltage × Fusb302 :=
  if c.vconnEnabled then
    if c.ccPolarity ≠ 0 then
      let m := c.measureCcPinSource true r.vnc2 r.rd2
      (cc1, m.1, m.2)
    else
      let m := c.measureCcPinSource false r.vnc1 r.rd1
      (m.1, cc2, m.2)
  else
    let m₁ := c.measureCcPinSource false r.vnc1 r.rd1
    let m₂ := m₁.2.measureCcPinSource true r.vnc2 r.rd2
    (m₁.1, m₂.1, m₂.2)

/-- `fusb302_detect_cc_pin_sink`. -/
def detectCcPinSink (c : Fusb302) (r : CcReading) : CcVoltage × CcVoltage × Fusb302 :=
  let orig := c.tcpcRead .switches0
  let c := c.tcpcWrite .switches0 (orig &&& ~~~switches0MeasCc2 ||| switches0MeasCc1)
  let c := c.tcpcWrite .switches0
    (c.tcpcRead .switches0 &&& ~~~switches0MeasCc1 ||| switches0MeasCc2)
  let reg := c.tcpcRead .switches0
  let reg := if orig &&& switches0MeasCc1 = 0 then reg &&& ~~~switches0MeasCc1
    else reg ||| switches0MeasCc1
  let reg := if orig &&& switches0MeasCc2 = 0 then reg &&& ~~~switches0MeasCc2
    else reg ||| switches0MeasCc2
  (c.convertBcLvl (r.bcLvl1 &&& status0BcLvl), c.convertBcLvl (r.bcLvl2 &&& status0BcLvl),
    c.tcpcWrite .switches0 reg)

/-- `fusb302_tcpm_get_cc`, `cc1` and `cc2` being what the caller's variables
held. -/
def getCc (c : Fusb302) (r : CcReading) (cc1 cc2 : CcVoltage) :
    CcVoltage × CcVoltage × Fusb302 :=
  if c.pullingUp then c.detectCcPinSourceManual r cc1 cc2 else c.detectCcPinSink r

end Fusb302

end UsbPd
