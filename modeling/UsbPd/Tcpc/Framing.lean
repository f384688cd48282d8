import UsbPd.Tcpc.GetMessage

/-!
# Transmit framing

`fusb302_tcpm_transmit` writes a message into the transmit FIFO as tokens: the SOP
ordered set, a PACKSYM with the number of payload bytes, the payload, and the tokens
that append the CRC and start the transmission. The chip takes the payload from behind
PACKSYM, whatever bytes it holds.
-/

namespace UsbPd

/-! `enum fusb302_txfifo_tokens`. -/

def fusb302TknTxon : Byte := 0xA1
def fusb302TknSync1 : Byte := 0x12
def fusb302TknSync2 : Byte := 0x13
def fusb302TknPacksym : Byte := 0x80
def fusb302TknJamcrc : Byte := 0xFF
def fusb302TknEop : Byte := 0x14
def fusb302TknTxoff : Byte := 0xFE

/-- `fusb302_tcpm_send_message`: the bytes of the burst write, where `buf` holds the
first `buf_pos` bytes. -/
def fusb302TcpmSendMessage (header : BitVec 16) (data : List Word) (buf : List Byte) :
    List Byte :=
  let len := getNumBytes header
  let reg := fusb302TknPacksym ||| (BitVec.ofNat 8 len &&& 0x1F)
  let buf := buf ++ [reg]
  let buf := buf ++ [(header &&& 0x00FF#16).setWidth 8]
  let buf := buf ++ [((header >>> 8) &&& 0x00FF#16).setWidth 8]
  let len := len - 2
  let buf := buf ++ (Machine.bytesOfWords 4 data).take len
  buf ++ [fusb302TknJamcrc, fusb302TknEop, fusb302TknTxoff, fusb302TknTxon]

/-- `fusb302_tcpm_transmit(TCPC_TX_SOP)`: what it writes after the flush of the FIFO. -/
def fusb302TcpmTransmitSop (header : BitVec 16) (data : List Word) : List Byte :=
  fusb302TcpmSendMessage header data
    [BitVec.ofNat 8 tcpcRegFifos, fusb302TknSync1, fusb302TknSync1, fusb302TknSync1,
      fusb302TknSync2]

/-- The SOP ordered set. -/
def sopTokens : List Byte := [fusb302TknSync1, fusb302TknSync1, fusb302TknSync1, fusb302TknSync2]

/-- The tokens behind the payload. -/
def endTokens : List Byte := [fusb302TknJamcrc, fusb302TknEop, fusb302TknTxoff, fusb302TknTxon]

/-- The length field of a PACKSYM token. -/
def packsymLength (token : Byte) : Nat := (token &&& 0x1F).toNat

/-- A reader of the transmit FIFO: the length comes from PACKSYM, and the payload is
parsed like the buffer of `fusb302_tcpm_get_message`. -/
def decodeFrame (fifo : List Byte) : Option (BitVec 16 × List Word) :=
  match fifo.drop sopTokens.length with
  | [] => none
  | token :: rest =>
    if fifo.take sopTokens.length = sopTokens ∧ token &&& ~~~0x1F = fusb302TknPacksym then
      let payload := rest.take (packsymLength token)
      some (headOfBytes (payload.getD 0 0) (payload.getD 1 0),
        memcpyWords [] (payload.drop 2) (packsymLength token - 2))
    else none

namespace PdMsg

variable (m : PdMsg)

/-- The payload of the packet: the header and the data objects. -/
def packetBytes : List Byte := Machine.leBytes 2 m.head.toNat ++ Machine.bytesOfWords 4 m.payload

/-- The PACKSYM token. -/
def packsym : Byte := fusb302TknPacksym ||| (BitVec.ofNat 8 (getNumBytes m.head) &&& 0x1F)

theorem length_packetBytes : m.packetBytes.length = getNumBytes m.head := by
  rw [packetBytes, List.length_append, Machine.length_leBytes, Machine.length_bytesOfWords,
    m.length_payload]
  unfold getNumBytes
  omega

theorem getNumBytes_lt : getNumBytes m.head < 32 := by
  have hcnt : headerCnt m.head < 8 := Nat.mod_lt _ (by decide)
  unfold getNumBytes
  omega

/-- The five bits of the length hold every length, and they leave the token alone. -/
theorem packsym_fields : ∀ n < 32,
    packsymLength (fusb302TknPacksym ||| (BitVec.ofNat 8 n &&& 0x1F)) = n ∧
      (fusb302TknPacksym ||| (BitVec.ofNat 8 n &&& 0x1F)) &&& ~~~0x1F = fusb302TknPacksym := by
  decide

theorem packsymLength_packsym : packsymLength m.packsym = m.packetBytes.length := by
  rw [packsym, (packsym_fields _ m.getNumBytes_lt).1, length_packetBytes]

theorem packsym_token : m.packsym &&& ~~~0x1F = fusb302TknPacksym :=
  (packsym_fields _ m.getNumBytes_lt).2

end PdMsg

/-- The two bytes of a header. -/
theorem headerBytes (head : BitVec 16) :
    [(head &&& 0x00FF#16).setWidth 8, ((head >>> 8) &&& 0x00FF#16).setWidth 8] =
      Machine.leBytes 2 head.toNat := by
  have hmask : ∀ x : BitVec 16, (x &&& 0x00FF#16).setWidth 8 = BitVec.ofNat 8 x.toNat := by
    intro x
    refine BitVec.eq_of_getLsbD_eq fun i hi => ?_
    have hbits := (byteMasks i (by omega)).1
    rw [BitVec.ofNat_toNat, BitVec.getLsbD_setWidth, BitVec.getLsbD_and, hbits,
      BitVec.getLsbD_setWidth]
    simp [hi]
  rw [hmask, hmask, BitVec.toNat_ushiftRight, Nat.shiftRight_eq_div_pow]
  rfl

/-- The frame of a message. -/
theorem fusb302TcpmTransmitSop_eq (m : PdMsg) :
    fusb302TcpmTransmitSop m.head m.payload =
      BitVec.ofNat 8 tcpcRegFifos :: (sopTokens ++ m.packsym :: (m.packetBytes ++ endTokens)) := by
  have hwords : (Machine.bytesOfWords 4 m.payload).take (getNumBytes m.head - 2) =
      Machine.bytesOfWords 4 m.payload := by
    refine List.take_of_length_le ?_
    rw [Machine.length_bytesOfWords, m.length_payload, getNumBytes_sub]
  unfold fusb302TcpmTransmitSop fusb302TcpmSendMessage
  simp only [hwords, PdMsg.packetBytes, ← headerBytes]
  rfl

/-- The payload is parsed back into the message. -/
theorem decodeFrame_eq (m : PdMsg) :
    decodeFrame (sopTokens ++ m.packsym :: (m.packetBytes ++ endTokens)) =
      some (m.head, m.payload) := by
  have htoken : (sopTokens ++ m.packsym :: (m.packetBytes ++ endTokens)).drop sopTokens.length =
      m.packsym :: (m.packetBytes ++ endTokens) := List.drop_left
  have hsop : (sopTokens ++ m.packsym :: (m.packetBytes ++ endTokens)).take sopTokens.length =
      sopTokens := List.take_left
  have hpayload : (m.packetBytes ++ endTokens).take (packsymLength m.packsym) = m.packetBytes := by
    rw [m.packsymLength_packsym, List.take_left]
  have hwords : memcpyWords [] (m.packetBytes.drop 2) (packsymLength m.packsym - 2) =
      m.payload := by
    rw [m.packsymLength_packsym, m.length_packetBytes]
    have hcopied := memcpyWords_eq m [] []
    rw [List.append_nil, List.drop_nil, List.append_nil] at hcopied
    exact hcopied
  unfold decodeFrame
  rw [htoken]
  simp only [hsop, m.packsym_token, and_self, if_true, hpayload, hwords]
  exact congrArg (fun head => some (head, m.payload)) (headOfBytes_leBytes m.head)

/-- Transmit framing: behind the address of the FIFO stand the SOP tokens, a PACKSYM
that counts the payload bytes, the payload and the end tokens, in at most 40 bytes, and
the message is read back from them. -/
theorem fusb302TcpmTransmitSop_frames (m : PdMsg) :
    ∃ (token : Byte) (payload : List Byte),
      fusb302TcpmTransmitSop m.head m.payload =
        BitVec.ofNat 8 tcpcRegFifos :: (sopTokens ++ token :: (payload ++ endTokens)) ∧
      token &&& ~~~0x1F = fusb302TknPacksym ∧
      packsymLength token = payload.length ∧
      payload = Machine.leBytes 2 m.head.toNat ++ Machine.bytesOfWords 4 m.payload ∧
      (fusb302TcpmTransmitSop m.head m.payload).length ≤ 40 ∧
      decodeFrame (fusb302TcpmTransmitSop m.head m.payload).tail = some (m.head, m.payload) := by
  have hframe := fusb302TcpmTransmitSop_eq m
  refine ⟨m.packsym, m.packetBytes, hframe, m.packsym_token, m.packsymLength_packsym, rfl, ?_, ?_⟩
  · have hlen := m.getNumBytes_lt
    have hcnt := m.length_packetBytes
    have heven : getNumBytes m.head = headerCnt m.head * 4 + 2 := rfl
    rw [hframe]
    simp only [List.length_cons, List.length_append, sopTokens, endTokens, List.length_nil]
    omega
  · rw [hframe, List.tail_cons]
    exact decodeFrame_eq m

end UsbPd
