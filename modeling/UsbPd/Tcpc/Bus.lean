import UsbPd.Machine.Dialogue
import UsbPd.Tcpc.Framing
import UsbPd.Tcpc.Switches

/-!
# The driver on the bus

The driver reaches the chip through `tcpc_read`, `tcpc_write` and `tcpc_xfer`. Here every
such transfer is a question to the bus, which may fail to answer it. A read that fails
leaves the -1 of `Wire.read` behind, and the three functions return 0 all the same. A byte
that is written carries a mark if a failed read went into it. On a bus without failures the
operations are those of `Fusb302`.
-/

namespace UsbPd

/-- A byte, and whether a failed read went into it. -/
structure Traced where
  value : Byte
  derived : Bool
  deriving DecidableEq

def Traced.map (f : Byte → Byte) (v : Traced) : Traced := ⟨f v.value, v.derived⟩

/-- A constant of the driver. -/
def Traced.const (value : Byte) : Traced := ⟨value, false⟩

/-- A transfer on the bus. -/
inductive Transfer where
  | read (reg : TcpcReg)
  | readStatus1
  | write (reg : TcpcReg) (v : Traced)
  /-- bytes to and from the FIFO -/
  | xfer (out : List Byte) (inSize : Nat)
  deriving DecidableEq

/-- The transfer puts a value that a failed read went into into a register. -/
def Transfer.writesDerived : Transfer → Bool
  | .write _ v => v.derived
  | _ => false

/-- The bytes that the chip sends, `none` if the transfer fails. -/
abbrev Reply := Option (Nat → Byte)

/-- `(uint8_t) Wireread()`, the `i`-th of a transfer. -/
def Reply.byte (r : Reply) (i : Nat) : Byte :=
  match r with
  | some bytes => bytes i
  | none => 0xFF

/-- `EC_SUCCESS`, `EC_ERROR_UNKNOWN`, `EC_ERROR_INVAL` and `EC_ERROR_UNIMPLEMENTED`. -/
def EcResult.code : EcResult → Nat
  | .success => 0
  | .errorUnknown => 1
  | .errorUnimplemented => 2
  | .errorInval => 5

/-- A program of the driver. -/
abbrev Bus := Machine.Dialogue Transfer Reply

namespace Bus

open Fusb302 Machine.Dialogue

/-- `tcpc_read`: the result code and the value. -/
def tcpcRead (reg : TcpcReg) : Bus (Nat × Traced) := do
  let r ← request (.read reg)
  return (0, ⟨r.byte 0, r.isNone⟩)

/-- `tcpc_read(port, TCPC_REG_STATUS1, &reg)`. -/
def tcpcReadStatus1 : Bus (Nat × Byte) := do
  let r ← request .readStatus1
  return (0, r.byte 0)

/-- `tcpc_write`. -/
def tcpcWrite (reg : TcpcReg) (v : Traced) : Bus Nat := do
  let _ ← request (.write reg v)
  return 0

/-- `tcpc_xfer`: the result code and the bytes read. -/
def tcpcXfer (out : List Byte) (inSize : Nat) : Bus (Nat × List Byte) := do
  let r ← request (.xfer out inSize)
  return (0, (List.range inSize).map r.byte)

/-- `tcpc_read`, an assignment to `reg` and `tcpc_write`. -/
def modifyReg (reg : TcpcReg) (f : Byte → Byte) : Bus Nat := do
  let v ← tcpcRead reg
  tcpcWrite reg (v.2.map f)

/-- `fusb302_flush_rx_fifo`. -/
def flushRxFifo : Bus Nat := tcpcWrite .control1 (.const control1RxFlush)

/-- `fusb302_flush_tx_fifo`. -/
def flushTxFifo : Bus Nat := modifyReg .control0 fun reg => reg ||| control0TxFlush

/-- `fusb302_auto_goodcrc_enable`. -/
def autoGoodcrcEnable (enable : Bool) : Bus Nat :=
  modifyReg .switches1 fun reg =>
    if enable then reg ||| switches1AutoGcrc else reg &&& ~~~switches1AutoGcrc

/-- `fusb302_tcpm_set_polarity`. -/
def setPolarity (st : ChipState) (polarity : Int) : Bus (EcResult × ChipState) := do
  let _ ← modifyReg .switches0 fun reg =>
    let reg := reg &&& ~~~switches0VconnCc1 &&& ~~~switches0VconnCc2
    let reg := if st.vconnEnabled then
        reg ||| (if polarity ≠ 0 then switches0VconnCc1 else switches0VconnCc2)
      else reg
    let reg := reg &&& ~~~switches0MeasCc1 &&& ~~~switches0MeasCc2
    reg ||| (if polarity ≠ 0 then switches0MeasCc2 else switches0MeasCc1)
  let _ ← modifyReg .switches1 fun reg =>
    let reg := reg &&& ~~~switches1Txcc1En &&& ~~~switches1Txcc2En
    reg ||| (if polarity ≠ 0 then switches1Txcc2En else switches1Txcc1En)
  return (.success, { st with ccPolarity := polarity })

/-- `fusb302_tcpm_set_vconn`. -/
def setVconn (st : ChipState) (enable : Bool) : Bus (EcResult × ChipState) := do
  let st := { st with vconnEnabled := enable }
  if enable then
    let r ← setPolarity st st.ccPolarity
    return (.success, r.2)
  else
    let _ ← modifyReg .switches0 fun reg => reg &&& ~~~switches0VconnCc1 &&& ~~~switches0VconnCc2
    return (.success, st)

/-- `fusb302_tcpm_set_cc`. -/
def setCc (st : ChipState) : CcPull → Bus (EcResult × ChipState)
  | .rp => do
    let _ ← modifyReg .switches0 fun reg =>
      let reg := reg &&& ~~~(switches0Cc2PuEn ||| switches0Cc1PuEn ||| switches0Cc1PdEn |||
        switches0Cc2PdEn ||| switches0VconnCc1 ||| switches0VconnCc2)
      let reg := reg ||| switches0Cc1PuEn ||| switches0Cc2PuEn
      if st.vconnEnabled then
        reg ||| (if st.ccPolarity ≠ 0 then switches0VconnCc1 else switches0VconnCc2)
      else reg
    return (.success, { st with pullingUp := true })
  | .rd => do
    let _ ← modifyReg .control2 fun reg => reg &&& ~~~control2Toggle
    let _ ← modifyReg .switches0 fun reg =>
      let reg := reg &&& ~~~switches0Cc2PuEn &&& ~~~switches0Cc1PuEn
      reg ||| switches0Cc1PdEn ||| switches0Cc2PdEn
    return (.success, { st with pullingUp := false })
  | .open => do
    let _ ← modifyReg .control2 fun reg => reg &&& ~~~control2Toggle
    let _ ← modifyReg .switches0 fun reg =>
      reg &&& ~~~switches0Cc1PuEn &&& ~~~switches0Cc2PuEn &&& ~~~switches0Cc1PdEn &&&
        ~~~switches0Cc2PdEn
    return (.success, { st with pullingUp := false })
  | .ra => return (.errorUnimplemented, st)

/-- `fusb302_tcpm_set_msg_header`. -/
def setMsgHeader (powerRole dataRole : Bool) : Bus EcResult := do
  let _ ← modifyReg .switches1 fun reg =>
    let reg := reg &&& ~~~switches1PowerRole &&& ~~~switches1DataRole
    let reg := if powerRole then reg ||| switches1PowerRole else reg
    if dataRole then reg ||| switches1DataRole else reg
  return .success

/-- `fusb302_tcpm_set_rx_enable`. MASK is written if `tcpc_read` returned 0. -/
def setRxEnable (st : ChipState) (enable : Bool) : Bus (EcResult × ChipState) := do
  let st := { st with rxEnable := enable }
  let v ← tcpcRead .switches0
  let reg := v.2.map fun reg => reg &&& ~~~switches0MeasCc1 &&& ~~~switches0MeasCc2
  if enable then
    if st.ccPolarity ≠ 0 ∧ st.ccPolarity ≠ 1 then
      return (.errorUnknown, st)
    else
      let _ ← tcpcWrite .switches0 (reg.map fun reg =>
        reg ||| (if st.ccPolarity = 0 then switches0MeasCc1 else switches0MeasCc2))
      let mask ← tcpcRead .mask
      if mask.1 = 0 then
        let _ ← tcpcWrite .mask (mask.2.map fun reg => reg ||| maskBcLvl)
      let _ ← flushRxFifo
      let _ ← autoGoodcrcEnable enable
      return (.success, st)
  else
    let _ ← tcpcWrite .switches0 reg
    let mask ← tcpcRead .mask
    if mask.1 = 0 then
      let _ ← tcpcWrite .mask (mask.2.map fun reg => reg &&& ~~~maskBcLvl)
    let _ ← autoGoodcrcEnable enable
    return (.success, st)

/-- `fusb302_tcpm_select_rp_value`, the one operation that looks at result codes. -/
def selectRpValue (st : ChipState) (rp : RpValue) : Bus (Nat × ChipState) := do
  let v ← tcpcRead .control0
  if v.1 ≠ 0 then
    return (v.1, st)
  else
    let cur := match rp with
      | .rp1A5 => 0x08
      | .rp3A0 => 0x0C
      | .usb | .reserved => 0x04
    let st := match rp with
      | .rp1A5 => { st with mdacVnc := measureMdacMv 1600, mdacRd := measureMdacMv 400 }
      | .rp3A0 => { st with mdacVnc := measureMdacMv 2600, mdacRd := measureMdacMv 800 }
      | .usb | .reserved =>
        { st with mdacVnc := measureMdacMv 1600, mdacRd := measureMdacMv 200 }
    let rv ← tcpcWrite .control0 (v.2.map fun reg => reg &&& ~~~control0HostCurMask ||| cur)
    return (rv, st)

/-- `fusb302_tcpm_transmit`. -/
def transmit (type : TcpmTransmitType) (header : BitVec 16) (data : List Word) : Bus EcResult := do
  let _ ← flushTxFifo
  match type.accepted with
  | some .sop =>
    let _ ← tcpcXfer (fusb302TcpmTransmitSop header data) 0
    return .success
  | some .hardReset =>
    let _ ← modifyReg .control3 fun reg => reg ||| control3SendHardReset
    return .success
  | some .bistMode2 =>
    let _ ← modifyReg .control1 fun reg => reg ||| control1BistMode2
    let _ ← modifyReg .control0 fun reg => reg ||| control0TxStart
    let _ ← modifyReg .control1 fun reg => reg &&& ~~~control1BistMode2
    return .success
  | none => return .errorUnimplemented

/-- `fusb302_rx_fifo_is_empty`. -/
def rxFifoIsEmpty : Bus Bool := do
  let v ← tcpcReadStatus1
  return v.1 = 0 ∧ v.2 &&& status1RxEmpty ≠ 0

/-- A packet out of the FIFO. -/
structure Packet where
  rv : Nat
  head : BitVec 16
  buf : List Byte

/-- The body of the loop of `fusb302_tcpm_get_message`. -/
def readPacket (buf : List Byte) : Bus Packet := do
  let buf := store buf [BitVec.ofNat 8 tcpcRegFifos]
  let part1 ← tcpcXfer (buf.take 1) 0
  let part2 ← tcpcXfer [] 3
  let buf := store buf part2.2
  let head := headOfBytes (buf.getD 1 0) (buf.getD 2 0)
  let len := getNumBytes head - 2
  let part3 ← tcpcXfer [] (len + 4)
  return ⟨part1.1 ||| part2.1 ||| part3.1, head, store buf part3.2⟩

/-- The loop, `none` when the passes run out. -/
def readPackets : Nat → List Byte → Bus (Option Packet)
  | 0, _ => return none
  | passes + 1, buf => do
    let r ← readPacket buf
    if r.rv = 0 ∧ packetIsGoodCrc r.head then
      let empty ← rxFifoIsEmpty
      if empty then return some r else readPackets passes r.buf
    else return some r

/-- What `fusb302_tcpm_get_message` returns to its caller. -/
structure Received where
  rv : Nat
  payload : List Word
  head : BitVec 16

/-- What follows the loop. -/
def Packet.received (r : Packet) (payload : List Word) : Received :=
  if r.rv = 0 then
    if packetIsGoodCrc r.head then ⟨ecErrorUnknown, payload, r.head⟩
    else ⟨r.rv, memcpyWords payload r.buf (getNumBytes r.head - 2), r.head⟩
  else ⟨r.rv, payload, r.head⟩

/-- `fusb302_tcpm_get_message`. -/
def getMessage (passes : Nat) (buf : List Byte) (payload : List Word) (head : BitVec 16) :
    Bus (Option Received) := do
  let empty ← rxFifoIsEmpty
  if empty then return some ⟨ecErrorUnknown, payload, head⟩
  else
    let r ← readPackets passes buf
    return r.map fun r => r.received payload

end Bus

/-! A bus without failures. -/

/-- The registers of the chip on the bus. -/
def Registers.handle : Transfer → Registers → Reply × Registers
  | .read reg, regs => (some fun _ => Fusb302.readReg regs reg, regs)
  | .write reg v, regs => (some fun _ => 0, Fusb302.writeReg regs reg v.value)
  | .readStatus1, regs | .xfer _ _, regs => (some fun _ => 0, regs)

/-- The driver's record beside the registers. -/
def Fusb302.chipState (c : Fusb302) : ChipState where
  ccPolarity := c.ccPolarity
  vconnEnabled := c.vconnEnabled
  pullingUp := c.pullingUp
  rxEnable := c.rxEnable
  mdacVnc := c.mdacVnc
  mdacRd := c.mdacRd

/-- The program computes what the operation does to the chip. -/
def Bus.Implements {α : Type} (program : Bus (α × ChipState)) (c : Fusb302)
    (result : α × Fusb302) : Prop :=
  program.interpret Registers.handle c.regs =
    ((result.1, result.2.chipState), result.2.regs)

namespace Fusb302

variable (c : Fusb302)

theorem implements_setPolarity (polarity : Int) :
    (Bus.setPolarity c.chipState polarity).Implements c (.success, c.setPolarity polarity) :=
  rfl

theorem implements_setVconn (enable : Bool) :
    (Bus.setVconn c.chipState enable).Implements c (.success, c.setVconn enable) := by
  cases enable <;> rfl

theorem implements_setCc (pull : CcPull) :
    (Bus.setCc c.chipState pull).Implements c (c.setCc pull) := by
  cases pull <;> rfl

theorem implements_setMsgHeader (powerRole dataRole : Bool) :
    (Bus.setMsgHeader powerRole dataRole).interpret Registers.handle c.regs =
      (.success, (c.setMsgHeader powerRole dataRole).regs) :=
  rfl

theorem implements_setRxEnable (enable : Bool) :
    (Bus.setRxEnable c.chipState enable).Implements c (c.setRxEnable enable) := by
  cases enable with
  | false => rfl
  | true =>
      unfold Bus.Implements Bus.setRxEnable setRxEnable
      by_cases hpolarity : c.ccPolarity ≠ 0 ∧ c.ccPolarity ≠ 1
      · have hrecord : c.chipState.ccPolarity ≠ 0 ∧ c.chipState.ccPolarity ≠ 1 := hpolarity
        simp only [if_true, if_pos hpolarity, if_pos hrecord]
        rfl
      · have hrecord : ¬(c.chipState.ccPolarity ≠ 0 ∧ c.chipState.ccPolarity ≠ 1) := hpolarity
        simp only [if_true, if_neg hpolarity, if_neg hrecord]
        rfl

theorem implements_selectRpValue (rp : RpValue) :
    (Bus.selectRpValue c.chipState rp).Implements c (0, c.selectRpValue rp) := by
  cases rp <;> rfl

theorem implements_transmit (type : TcpmTransmitType) (header : BitVec 16) (data : List Word) :
    (Bus.transmit type header data).interpret Registers.handle c.regs =
      ((c.tcpmTransmit type).1, (c.tcpmTransmit type).2.regs) := by
  cases type <;> rfl

end Fusb302

/-- The receive path of the chip on the bus. -/
def RxPath.handle : Transfer → RxPath → Reply × RxPath
  | .readStatus1, d =>
    let read := d.tcpcRead tcpcRegStatus1
    (some fun _ => read.2.1, read.2.2)
  | .xfer out inSize, d =>
    let xfer := d.tcpcXfer out inSize
    (some fun i => xfer.2.1.getD i 0, xfer.2.2)
  | .read _, d | .write _ _, d => (some fun _ => 0, d)

theorem RxPath.length_readBytes (d : RxPath) (n : Nat) : (d.readBytes n).1.length = n := by
  induction n generalizing d with
  | zero => rfl
  | succ n ih => exact congrArg Nat.succ (ih d.readByte.2)

theorem RxPath.length_tcpcXfer (d : RxPath) (out : List Byte) (inSize : Nat) :
    (d.tcpcXfer out inSize).2.1.length = inSize := by
  unfold tcpcXfer
  by_cases hsize : inSize = 0
  · rw [if_pos hsize, hsize]
    rfl
  · rw [if_neg hsize]
    exact length_readBytes _ inSize

namespace Bus

open RxPath Machine.Dialogue

theorem interpret_tcpcXfer (out : List Byte) (inSize : Nat) (d : RxPath) :
    (tcpcXfer out inSize).interpret handle d =
      ((0, (d.tcpcXfer out inSize).2.1), (d.tcpcXfer out inSize).2.2) := by
  have hbytes : (List.range inSize).map (fun i => (d.tcpcXfer out inSize).2.1.getD i 0) =
      (d.tcpcXfer out inSize).2.1 := by
    refine List.ext_getElem ?_ fun i hi hi' => ?_
    · rw [List.length_map, List.length_range, length_tcpcXfer]
    · rw [List.getElem_map, List.getElem_range, List.getD_eq_getElem?_getD,
        List.getElem?_eq_getElem hi', Option.getD_some]
  exact congrArg (fun bytes => ((0, bytes), (d.tcpcXfer out inSize).2.2)) hbytes

theorem interpret_rxFifoIsEmpty (d : RxPath) :
    rxFifoIsEmpty.interpret handle d = d.fusb302RxFifoIsEmpty :=
  rfl

/-- What the program sees of a pass. -/
abbrev packetOf (r : PacketRead) : Packet := ⟨r.rv, r.head, r.buf⟩

theorem interpret_readPacket (buf : List Byte) (d : RxPath) :
    (readPacket buf).interpret handle d =
      (packetOf (UsbPd.readPacket buf d), (UsbPd.readPacket buf d).chip) := by
  unfold readPacket
  simp only [interpret_bind, interpret_tcpcXfer, interpret_pure]
  rfl

theorem interpret_readPackets (passes : Nat) (buf : List Byte) (d : RxPath) :
    ((readPackets passes buf).interpret handle d).1 =
        (UsbPd.readPackets passes buf d).map packetOf ∧
      ∀ r, UsbPd.readPackets passes buf d = some r →
        ((readPackets passes buf).interpret handle d).2 = r.chip := by
  induction passes generalizing buf d with
  | zero => exact ⟨rfl, fun r hr => by cases hr⟩
  | succ passes ih =>
      rw [readPackets, interpret_bind_ite, interpret_bind_ite, interpret_readPacket,
        interpret_rxFifoIsEmpty]
      unfold UsbPd.readPackets
      dsimp only
      split_ifs
      · exact ⟨rfl, fun r hr => by cases hr; rfl⟩
      · exact ih _ _
      · exact ⟨rfl, fun r hr => by cases hr; rfl⟩

/-- Against a bus without failures the program is `fusb302_tcpm_get_message`. -/
theorem interpret_getMessage (passes : Nat) (buf : List Byte) (payload : List Word)
    (head : BitVec 16) (d : RxPath) :
    ((getMessage passes buf payload head).interpret handle d).1 =
        (fusb302TcpmGetMessage passes d buf payload head).map
          (fun r => ⟨r.rv, r.payload, r.head⟩) ∧
      ∀ r, fusb302TcpmGetMessage passes d buf payload head = some r →
        ((getMessage passes buf payload head).interpret handle d).2 = r.chip := by
  rw [getMessage, interpret_bind_ite, interpret_rxFifoIsEmpty, interpret_bind]
  unfold fusb302TcpmGetMessage
  dsimp only
  split_ifs
  · exact ⟨rfl, fun r hr => by cases hr; rfl⟩
  · obtain ⟨hresult, hchip⟩ := interpret_readPackets passes buf d.fusb302RxFifoIsEmpty.2
    simp only [interpret_pure, hresult]
    cases hread : UsbPd.readPackets passes buf d.fusb302RxFifoIsEmpty.2 with
    | none => exact ⟨rfl, fun r hr => by cases hr⟩
    | some found =>
        have hdevice := hchip found hread
        simp only [Option.map_some, packetOf, Packet.received]
        split_ifs
        · exact ⟨rfl, fun r hr => by cases hr; exact hdevice⟩
        · exact ⟨rfl, fun r hr => by cases hr; exact hdevice⟩
        · exact ⟨rfl, fun r hr => by cases hr; exact hdevice⟩

end Bus

end UsbPd
