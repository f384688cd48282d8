import UsbPd.Machine.Endian
import UsbPd.Port.Message

/-!
# Reading a message from the receive FIFO

`fusb302_tcpm_get_message` empties packets out of the FIFO of the chip until it finds
one that is not a GoodCRC. Every packet is read in two bursts into one buffer: three
bytes with the token and the header, then as many bytes as the header announces and
the CRC.
-/

namespace UsbPd

/-- A byte on the bus. -/
abbrev Byte := BitVec 8

/-- `TCPC_REG_STATUS1`, `TCPC_REG_FIFOS`. -/
def tcpcRegStatus1 : Nat := 0x41

def tcpcRegFifos : Nat := 0x43

/-- `TCPC_REG_STATUS1_RX_EMPTY`. -/
def status1RxEmpty : Byte := 1 <<< 5

/-- `EC_ERROR_UNKNOWN`. -/
def ecErrorUnknown : Nat := 1

/-- What the receive path sees of the chip: the FIFO, the bits of STATUS1 other than
RX_EMPTY, and the register that the next read addresses; beside it the sizes of the
bursts so far, the last one first. -/
structure RxPath where
  fifo : List Byte
  status1 : Byte
  pointer : Nat
  reads : List Nat

namespace RxPath

/-- The chip sends one byte: the next one of the FIFO, or the status. The receive path
addresses no other register. -/
def readByte (d : RxPath) : Byte × RxPath :=
  if d.pointer = tcpcRegFifos then
    match d.fifo with
    | [] => (0, d)
    | byte :: rest => (byte, { d with fifo := rest })
  else if d.pointer = tcpcRegStatus1 then
    (if d.fifo = [] then d.status1 ||| status1RxEmpty else d.status1 &&& ~~~status1RxEmpty, d)
  else (0, d)

/-- `for (; in_size>0; in_size--) *in = Wireread()`. -/
def readBytes : Nat → RxPath → List Byte × RxPath
  | 0, d => ([], d)
  | n + 1, d =>
    let first := d.readByte
    let rest := first.2.readBytes n
    (first.1 :: rest.1, rest.2)

/-- `tcpc_read`: the result code, the value and the chip. -/
def tcpcRead (d : RxPath) (reg : Nat) : Nat × Byte × RxPath :=
  let read := { d with pointer := reg }.readByte
  (0, read.1, read.2)

/-- `tcpc_xfer`. The first byte written addresses a register; how the transfer ends is
the same to the chip. -/
def tcpcXfer (d : RxPath) (out : List Byte) (inSize : Nat) : Nat × List Byte × RxPath :=
  let d := match out with
    | [] => d
    | reg :: _ => { d with pointer := reg.toNat }
  if inSize = 0 then (0, [], d)
  else
    let read := d.readBytes inSize
    (0, read.1, { read.2 with reads := inSize :: read.2.reads })

/-- `fusb302_rx_fifo_is_empty`. -/
def fusb302RxFifoIsEmpty (d : RxPath) : Bool × RxPath :=
  let read := d.tcpcRead tcpcRegStatus1
  (read.1 = 0 ∧ read.2.1 &&& status1RxEmpty ≠ 0, read.2.2)

end RxPath

/-- `get_num_bytes`. -/
def getNumBytes (header : BitVec 16) : Nat := headerCnt header * 4 + 2

/-- `PACKET_IS_GOOD_CRC`. -/
def packetIsGoodCrc (head : BitVec 16) : Bool :=
  headerType head = CtrlMsgType.goodCrc.toNat ∧ headerCnt head = 0

/-- `buf` after the transfer of `bytes` to its start. -/
def store (buf bytes : List Byte) : List Byte := bytes ++ buf.drop bytes.length

/-- The header from its two bytes. -/
def headOfBytes (low high : Byte) : BitVec 16 :=
  (low.setWidth 16 &&& 0x00FF#16) ||| ((high.setWidth 16 <<< 8) &&& 0xFF00#16)

/-- What a pass of the loop leaves: the result code, the header, the buffer and the
chip. -/
structure PacketRead where
  rv : Nat
  head : BitVec 16
  buf : List Byte
  chip : RxPath

/-- The body of the loop. -/
def readPacket (buf : List Byte) (d : RxPath) : PacketRead :=
  let buf := store buf [BitVec.ofNat 8 tcpcRegFifos]
  let part1 := d.tcpcXfer (buf.take 1) 0
  let part2 := part1.2.2.tcpcXfer [] 3
  let buf := store buf part2.2.1
  let head := headOfBytes (buf.getD 1 0) (buf.getD 2 0)
  let len := getNumBytes head - 2
  let part3 := part2.2.2.tcpcXfer [] (len + 4)
  let buf := store buf part3.2.1
  { rv := part1.1 ||| part2.1 ||| part3.1, head := head, buf := buf, chip := part3.2.2 }

/-- The loop: read until there is a packet that is not a GoodCRC, or the FIFO is empty.
`none` when the passes run out. -/
def readPackets : Nat → List Byte → RxPath → Option PacketRead
  | 0, _, _ => none
  | passes + 1, buf, d =>
    let r := readPacket buf d
    if r.rv = 0 ∧ packetIsGoodCrc r.head then
      let empty := r.chip.fusb302RxFifoIsEmpty
      if empty.1 then some { r with chip := empty.2 } else readPackets passes r.buf empty.2
    else some r

/-- `memcpy(payload, buf, len)` on a little-endian machine; `len` is a multiple of 4. -/
def memcpyWords (payload : List Word) (buf : List Byte) (len : Nat) : List Word :=
  Machine.wordsOfBytes 32 4 (len / 4) buf ++ payload.drop (len / 4)

/-- What `fusb302_tcpm_get_message` leaves. -/
structure GotMessage where
  rv : Nat
  payload : List Word
  head : BitVec 16
  chip : RxPath

/-- `fusb302_tcpm_get_message`, with a limit to the passes of its loop. -/
def fusb302TcpmGetMessage (passes : Nat) (d : RxPath) (buf : List Byte) (payload : List Word)
    (head : BitVec 16) : Option GotMessage :=
  let empty := d.fusb302RxFifoIsEmpty
  if empty.1 then some ⟨ecErrorUnknown, payload, head, empty.2⟩
  else
    (readPackets passes buf empty.2).map fun r =>
      if r.rv = 0 then
        if packetIsGoodCrc r.head then ⟨ecErrorUnknown, payload, r.head, r.chip⟩
        else ⟨r.rv, memcpyWords payload r.buf (getNumBytes r.head - 2), r.head, r.chip⟩
      else ⟨r.rv, payload, r.head, r.chip⟩

/-- A packet in the FIFO: a token, a message and a CRC. -/
structure RxPacket where
  token : Byte
  msg : PdMsg
  crc : Word

namespace RxPacket

/-- The packet as the FIFO holds it. -/
def bytes (k : RxPacket) : List Byte :=
  k.token :: (Machine.leBytes 2 k.msg.head.toNat ++ Machine.bytesOfWords 4 k.msg.payload ++
    Machine.leBytes 4 k.crc.toNat)

def isGoodCrc (k : RxPacket) : Bool := packetIsGoodCrc k.msg.head

end RxPacket

end UsbPd
