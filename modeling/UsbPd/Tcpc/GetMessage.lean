import UsbPd.Tcpc.Fifo

/-!
# Receive parsing

Each pass of the loop removes exactly one packet, so the message handed over is the
first one in the FIFO that is not a GoodCRC.
-/

namespace UsbPd

namespace RxPath

variable {d : RxPath}

/-- The chip with the packets in its FIFO. -/
def holding (status1 : Byte) (pointer : Nat) (packets : List RxPacket) : RxPath where
  fifo := packets.flatMap RxPacket.bytes
  status1 := status1
  pointer := pointer
  reads := []

theorem rxEmpty_set (status : Byte) : (status ||| status1RxEmpty) &&& status1RxEmpty ≠ 0#8 := by
  revert status
  decide

theorem rxEmpty_cleared (status : Byte) :
    (status &&& ~~~status1RxEmpty) &&& status1RxEmpty = 0#8 := by
  revert status
  decide

/-- The driver sees whether the FIFO is empty. -/
theorem fusb302RxFifoIsEmpty_eq (d : RxPath) :
    d.fusb302RxFifoIsEmpty = (decide (d.fifo = []), { d with pointer := tcpcRegStatus1 }) := by
  have hother : tcpcRegStatus1 ≠ tcpcRegFifos := by decide
  unfold fusb302RxFifoIsEmpty tcpcRead readByte
  simp only [if_neg hother, if_true]
  by_cases hempty : d.fifo = []
  · simp [hempty, rxEmpty_set]
  · simp [hempty, rxEmpty_cleared]

variable {status1 : Byte} {pointer : Nat} {reads : List Nat}

/-- A burst read of the FIFO pops the next bytes. -/
theorem readBytes_fifo (bytes rest : List Byte) :
    (RxPath.mk (bytes ++ rest) status1 tcpcRegFifos reads).readBytes bytes.length =
      (bytes, ⟨rest, status1, tcpcRegFifos, reads⟩) := by
  induction bytes with
  | nil => rfl
  | cons byte bytes ih =>
      have hfirst : (RxPath.mk (byte :: bytes ++ rest) status1 tcpcRegFifos reads).readByte =
          (byte, ⟨bytes ++ rest, status1, tcpcRegFifos, reads⟩) := rfl
      rw [List.length_cons, readBytes, hfirst, ih]

/-- A burst without a register address. -/
theorem tcpcXfer_fifo {bytes : List Byte} (hsome : bytes.length ≠ 0) (rest : List Byte) :
    (RxPath.mk (bytes ++ rest) status1 tcpcRegFifos reads).tcpcXfer [] bytes.length =
      (0, bytes, ⟨rest, status1, tcpcRegFifos, bytes.length :: reads⟩) := by
  unfold tcpcXfer
  simp only [if_neg hsome, readBytes_fifo]

end RxPath

theorem byteMasks : ∀ i < 16, (0x00FF#16).getLsbD i = decide (i < 8) ∧
    (0xFF00#16).getLsbD i = decide (8 ≤ i) := by
  decide

theorem headOfBytes_leBytes (head : BitVec 16) :
    headOfBytes (BitVec.ofNat 8 head.toNat) (BitVec.ofNat 8 (head.toNat / 256)) = head := by
  have hhigh : BitVec.ofNat 8 (head.toNat / 256) = (head >>> 8).setWidth 8 := by
    rw [show head.toNat / 256 = (head >>> 8).toNat by
      rw [BitVec.toNat_ushiftRight, Nat.shiftRight_eq_div_pow]]
    rfl
  rw [BitVec.ofNat_toNat, hhigh]
  unfold headOfBytes
  refine BitVec.eq_of_getLsbD_eq fun i hi => ?_
  obtain ⟨hlow, hmask⟩ := byteMasks i hi
  rw [BitVec.getLsbD_or, BitVec.getLsbD_and, BitVec.getLsbD_and, hlow, hmask,
    BitVec.getLsbD_setWidth, BitVec.getLsbD_setWidth, BitVec.getLsbD_shiftLeft,
    BitVec.getLsbD_setWidth, BitVec.getLsbD_setWidth, BitVec.getLsbD_ushiftRight]
  by_cases hbyte : i < 8
  · have hnot : ¬ 8 ≤ i := Nat.not_le.2 hbyte
    simp [hi, hbyte, hnot]
  · have hsum : 8 + (i - 8) = i := by omega
    rw [hsum]
    have hge : 8 ≤ i := Nat.le_of_not_lt hbyte
    have hsub : i - 8 < 8 := by omega
    have hsub' : i - 8 < 16 := by omega
    simp [hi, hbyte, hge, hsub, hsub']

theorem getNumBytes_sub (head : BitVec 16) : getNumBytes head - 2 = 4 * headerCnt head := by
  unfold getNumBytes
  omega

/-- Every burst fits into the buffer. -/
theorem getNumBytes_fits (head : BitVec 16) : getNumBytes head - 2 + 4 ≤ 32 := by
  have hcnt : headerCnt head < 8 := Nat.mod_lt _ (by decide)
  unfold getNumBytes
  omega

namespace RxPacket

variable (k : RxPacket)

/-- The first burst: the token and the header. -/
def front : List Byte :=
  [k.token, BitVec.ofNat 8 k.msg.head.toNat, BitVec.ofNat 8 (k.msg.head.toNat / 256)]

/-- The second burst: the data objects and the CRC. -/
def tail : List Byte := Machine.bytesOfWords 4 k.msg.payload ++ Machine.leBytes 4 k.crc.toNat

theorem length_tail : k.tail.length = getNumBytes k.msg.head - 2 + 4 := by
  rw [tail, List.length_append, Machine.length_bytesOfWords, Machine.length_leBytes,
    k.msg.length_payload, getNumBytes_sub]

theorem bytes_eq : k.bytes = k.front ++ k.tail := by
  simp [bytes, front, tail, Machine.leBytes]

theorem bytes_ne_nil : k.bytes ≠ [] := by
  rw [bytes_eq]
  exact List.cons_ne_nil _ _

end RxPacket

/-- A pass of the loop removes the packet at the front of the FIFO. -/
theorem readPacket_eq (k : RxPacket) (rest buf : List Byte) (status1 : Byte) (pointer : Nat)
    (reads : List Nat) :
    ∃ junk, readPacket buf ⟨k.bytes ++ rest, status1, pointer, reads⟩ =
      { rv := 0
        head := k.msg.head
        buf := Machine.bytesOfWords 4 k.msg.payload ++ junk
        chip := ⟨rest, status1, tcpcRegFifos, (getNumBytes k.msg.head - 2 + 4) :: 3 :: reads⟩ } := by
  have hlen := k.length_tail
  have hfront : k.front.length ≠ 0 := Nat.succ_ne_zero 2
  have hpart1 : (RxPath.mk (k.bytes ++ rest) status1 pointer reads).tcpcXfer
      ((store buf [BitVec.ofNat 8 tcpcRegFifos]).take 1) 0 =
        (0, [], ⟨k.front ++ (k.tail ++ rest), status1, tcpcRegFifos, reads⟩) := by
    rw [← List.append_assoc, ← k.bytes_eq]
    rfl
  have hpart2 : (RxPath.mk (k.front ++ (k.tail ++ rest)) status1 tcpcRegFifos reads).tcpcXfer [] 3 =
      (0, k.front, ⟨k.tail ++ rest, status1, tcpcRegFifos, 3 :: reads⟩) :=
    RxPath.tcpcXfer_fifo hfront (k.tail ++ rest)
  have hpart3 : (RxPath.mk (k.tail ++ rest) status1 tcpcRegFifos (3 :: reads)).tcpcXfer []
      (getNumBytes k.msg.head - 2 + 4) =
        (0, k.tail, ⟨rest, status1, tcpcRegFifos,
          (getNumBytes k.msg.head - 2 + 4) :: 3 :: reads⟩) := by
    rw [← hlen]
    exact RxPath.tcpcXfer_fifo (by rw [hlen]; exact Nat.succ_ne_zero _) rest
  have hhead : headOfBytes ((store (store buf [BitVec.ofNat 8 tcpcRegFifos]) k.front).getD 1 0)
      ((store (store buf [BitVec.ofNat 8 tcpcRegFifos]) k.front).getD 2 0) = k.msg.head :=
    headOfBytes_leBytes k.msg.head
  refine ⟨Machine.leBytes 4 k.crc.toNat ++
    (store (store buf [BitVec.ofNat 8 tcpcRegFifos]) k.front).drop k.tail.length, ?_⟩
  unfold readPacket
  simp only [hpart1, hpart2, hhead, hpart3]
  rw [← List.append_assoc]
  rfl

/-- The chip after a pass over the packet `k`. -/
def RxPath.passed (k : RxPacket) (rest : List Byte) (status1 : Byte) (reads : List Nat) : RxPath :=
  ⟨rest, status1, tcpcRegFifos, (getNumBytes k.msg.head - 2 + 4) :: 3 :: reads⟩

/-- A pass goes on to the next packet after a GoodCRC only. -/
theorem readPackets_succ (k : RxPacket) (rest buf : List Byte) (status1 : Byte) (pointer : Nat)
    (reads : List Nat) :
    ∃ junk, ∀ passes,
      readPackets (passes + 1) buf ⟨k.bytes ++ rest, status1, pointer, reads⟩ =
        let buf := Machine.bytesOfWords 4 k.msg.payload ++ junk
        let chip := RxPath.passed k rest status1 reads
        if k.isGoodCrc then
          if rest = [] then some ⟨0, k.msg.head, buf, { chip with pointer := tcpcRegStatus1 }⟩
          else readPackets passes buf { chip with pointer := tcpcRegStatus1 }
        else some ⟨0, k.msg.head, buf, chip⟩ := by
  obtain ⟨junk, hpass⟩ := readPacket_eq k rest buf status1 pointer reads
  refine ⟨junk, fun passes => ?_⟩
  rw [readPackets, hpass]
  simp only [RxPath.fusb302RxFifoIsEmpty_eq, RxPath.passed, RxPacket.isGoodCrc, true_and,
    decide_eq_true_eq]
  rfl

/-- What the loop leaves when it began with the given packets in the FIFO. -/
structure Parsed (packets : List RxPacket) (r : PacketRead) : Prop where
  rv : r.rv = 0
  fits : ∀ n ∈ r.chip.reads, n ≤ 32
  result : match packets.dropWhile RxPacket.isGoodCrc with
    | [] => packetIsGoodCrc r.head = true ∧ r.chip.fifo = []
    | k :: rest => r.head = k.msg.head ∧
        (∃ junk, r.buf = Machine.bytesOfWords 4 k.msg.payload ++ junk) ∧
        r.chip.fifo = rest.flatMap RxPacket.bytes

theorem passed_fits (k : RxPacket) (rest : List Byte) (status1 : Byte) {reads : List Nat}
    (hreads : ∀ n ∈ reads, n ≤ 32) : ∀ n ∈ (RxPath.passed k rest status1 reads).reads, n ≤ 32 := by
  intro n hn
  rcases List.mem_cons.1 hn with rfl | hn
  · exact getNumBytes_fits k.msg.head
  · rcases List.mem_cons.1 hn with rfl | hn
    · decide
    · exact hreads n hn

theorem flatMap_bytes_eq_nil {packets : List RxPacket} :
    packets.flatMap RxPacket.bytes = [] ↔ packets = [] := by
  cases packets with
  | nil => simp
  | cons k packets => simp [k.bytes_ne_nil]

/-- The loop ends after at most one pass for each packet. -/
theorem readPackets_parsed (k : RxPacket) (packets : List RxPacket) (extra : Nat) (buf : List Byte)
    (status1 : Byte) (pointer : Nat) {reads : List Nat} (hreads : ∀ n ∈ reads, n ≤ 32) :
    ∃ r, readPackets (packets.length + extra + 1) buf
      ⟨(k :: packets).flatMap RxPacket.bytes, status1, pointer, reads⟩ = some r ∧
        Parsed (k :: packets) r := by
  induction packets generalizing k buf pointer reads with
  | nil =>
      obtain ⟨junk, hpass⟩ := readPackets_succ k [] buf status1 pointer reads
      have hfits := passed_fits k [] status1 hreads
      rw [List.flatMap_cons, List.flatMap_nil, hpass]
      simp only [if_true]
      by_cases hcrc : k.isGoodCrc = true
      · rw [if_pos hcrc]
        refine ⟨_, rfl, rfl, hfits, ?_⟩
        rw [List.dropWhile_cons_of_pos hcrc]
        exact ⟨hcrc, rfl⟩
      · rw [if_neg hcrc]
        refine ⟨_, rfl, rfl, hfits, ?_⟩
        rw [List.dropWhile_cons_of_neg hcrc]
        exact ⟨rfl, ⟨junk, rfl⟩, rfl⟩
  | cons next packets ih =>
      obtain ⟨junk, hpass⟩ := readPackets_succ k ((next :: packets).flatMap RxPacket.bytes) buf
        status1 pointer reads
      have hfits := passed_fits k ((next :: packets).flatMap RxPacket.bytes) status1 hreads
      have hmore : (next :: packets).flatMap RxPacket.bytes ≠ [] := fun hnil =>
        List.cons_ne_nil _ _ (flatMap_bytes_eq_nil.1 hnil)
      rw [List.flatMap_cons, hpass]
      simp only [if_neg hmore]
      by_cases hcrc : k.isGoodCrc = true
      · rw [if_pos hcrc]
        obtain ⟨r, hr, hparsed⟩ := ih next (Machine.bytesOfWords 4 k.msg.payload ++ junk)
          tcpcRegStatus1 hfits
        refine ⟨r, ?_, hparsed.rv, hparsed.fits, ?_⟩
        · rw [List.length_cons, Nat.add_right_comm]
          exact hr
        · rw [List.dropWhile_cons_of_pos hcrc]
          exact hparsed.result
      · rw [if_neg hcrc]
        refine ⟨_, rfl, rfl, hfits, ?_⟩
        rw [List.dropWhile_cons_of_neg hcrc]
        exact ⟨rfl, ⟨junk, rfl⟩, rfl⟩

/-- The payload after the data objects were copied to it. -/
theorem memcpyWords_eq (m : PdMsg) (payload : List Word) (junk : List Byte) :
    memcpyWords payload (Machine.bytesOfWords 4 m.payload ++ junk) (getNumBytes m.head - 2) =
      m.payload ++ payload.drop m.payload.length := by
  have hlen : (getNumBytes m.head - 2) / 4 = m.payload.length := by
    rw [getNumBytes_sub, m.length_payload, Nat.mul_div_cancel_left _ (by decide)]
  rw [memcpyWords, hlen, Machine.wordsOfBytes_bytesOfWords (by decide)]

/-- Receive parsing: the call ends, hands over the first packet that is not a GoodCRC
and removes it with the GoodCRCs ahead of it; without such a packet it fails with an
empty FIFO and the payload as it was. Every burst fits into the buffer. -/
theorem fusb302TcpmGetMessage_parses (packets : List RxPacket) (extra : Nat) (status1 : Byte)
    (pointer : Nat) (buf : List Byte) (payload : List Word) (head : BitVec 16) :
    ∃ r, fusb302TcpmGetMessage (packets.length + extra) (.holding status1 pointer packets) buf
        payload head = some r ∧
      (∀ n ∈ r.chip.reads, n ≤ 32) ∧
      match packets.dropWhile RxPacket.isGoodCrc with
      | [] => r.rv ≠ 0 ∧ r.chip.fifo = [] ∧ r.payload = payload
      | k :: rest => r.rv = 0 ∧ r.head = k.msg.head ∧
          r.payload = k.msg.payload ++ payload.drop k.msg.payload.length ∧
          r.chip.fifo = rest.flatMap RxPacket.bytes := by
  cases packets with
  | nil =>
      unfold fusb302TcpmGetMessage
      rw [RxPath.fusb302RxFifoIsEmpty_eq]
      refine ⟨_, rfl, ?_, ?_⟩
      · intro n hn
        cases hn
      · exact ⟨Nat.one_ne_zero, rfl, rfl⟩
  | cons k packets =>
      have hmore : (k :: packets).flatMap RxPacket.bytes ≠ [] := fun hnil =>
        List.cons_ne_nil _ _ (flatMap_bytes_eq_nil.1 hnil)
      obtain ⟨r, hr, hrv, hfits, hresult⟩ := @readPackets_parsed k packets extra buf status1
        tcpcRegStatus1 [] (by simp)
      have hpasses : (k :: packets).length + extra = packets.length + extra + 1 := by
        rw [List.length_cons, Nat.add_right_comm]
      unfold fusb302TcpmGetMessage
      rw [hpasses, RxPath.fusb302RxFifoIsEmpty_eq]
      simp only [RxPath.holding, hmore, decide_false, Bool.false_eq_true, if_false, hr,
        Option.map_some, hrv, if_true]
      refine ⟨_, rfl, ?_⟩
      cases hdrop : (k :: packets).dropWhile RxPacket.isGoodCrc with
      | nil =>
          rw [hdrop] at hresult
          obtain ⟨hcrc, hempty⟩ := hresult
          rw [if_pos hcrc]
          exact ⟨hfits, Nat.one_ne_zero, hempty, rfl⟩
      | cons found rest =>
          rw [hdrop] at hresult
          obtain ⟨hhead, ⟨junk, hbuf⟩, hfifo⟩ := hresult
          have hcrc : ¬ packetIsGoodCrc r.head = true := by
            have hnot := List.head?_dropWhile_not RxPacket.isGoodCrc (k :: packets)
            rw [hdrop] at hnot
            rw [hhead]
            exact Bool.eq_false_iff.1 hnot
          rw [if_neg hcrc]
          refine ⟨hfits, rfl, hhead, ?_, hfifo⟩
          simp only [hbuf, hhead]
          exact memcpyWords_eq found.msg payload junk

end UsbPd
