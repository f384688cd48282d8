import UsbPd.System.Bounds
import UsbPd.Tcpc.Framing

/-!
# Delivery

From the transmissions of one port to the messages that the driver of its partner hands
over. A header announces the objects behind it and never names a GoodCRC, so the chip takes
the frame of a message apart again and the receiving driver does not drop it; one call of
the driver hands over one message, in the order of transmission.
-/

namespace UsbPd

/-- The header and the objects that `pd_transmit` is given. -/
abbrev Transmission := BitVec 16 × List Word

/-- A message that is transmitted as SOP. -/
def Call.transmission : Call → Option Transmission
  | .transmit .sop header data _ => some (header, data)
  | _ => none

/-- The messages transmitted as SOP, oldest first. -/
def sopMessages (log : List Call) : List Transmission := log.reverse.filterMap Call.transmission

/-- What the driver writes behind the address of the FIFO. -/
def frame (t : Transmission) : List Byte := (fusb302TcpmTransmitSop t.1 t.2).tail

/-- The header announces the objects, and the message is no GoodCRC. -/
structure Sound (t : Transmission) : Prop where
  count : headerCnt t.1 = t.2.length
  kept : packetIsGoodCrc t.1 = false

/-! Every transmission is sound. -/

namespace Port

/-- The header of a message with a type other than GoodCRC, or with objects. -/
theorem sound_header {p : Port} (hid : p.pd.msgId < 8) {type : Nat} {data : List Word}
    (htype : type < 16) (hcrc : data = [] → type ≠ CtrlMsgType.goodCrc.toNat)
    (hdata : data.length ≤ 7) : Sound (p.header type data.length, data) := by
  have hcnt : headerCnt (p.header type data.length) = data.length :=
    headerCnt_pdHeader _ _ _ htype hid (by decide) (by omega)
  have htypeField : headerType (p.header type data.length) = type :=
    headerType_pdHeader _ _ _ htype hid (by decide)
  refine ⟨hcnt, ?_⟩
  rw [packetIsGoodCrc, decide_eq_false_iff_not, htypeField, hcnt, List.length_eq_zero_iff]
  exact fun h => hcrc h.2 h.1

/-- The messages sent so far are sound, and the tables that they are made of are in bounds. -/
structure Sends (p : Port) : Prop where
  bounds : p.InBounds
  sound : ∀ c ∈ p.log, ∀ t, c.transmission = some t → Sound t

theorem sends_setup : setup.Sends where
  bounds := inBounds_setup
  sound := by
    have hnone : ∀ c ∈ setup.log, c.transmission = none := by decide
    intro c hc t ht
    rw [hnone c hc] at ht
    cases ht

variable {b : Board} {p q : Port}

theorem Sends.record (hp : p.Sends) {c : Call} (hc : ∀ t, c.transmission = some t → Sound t)
    (hq : q.InBounds) (hlog : q.log = c :: p.log) : q.Sends where
  bounds := hq
  sound := by
    intro c' hc' t ht
    rw [hlog] at hc'
    obtain rfl | hold := List.mem_cons.1 hc'
    · exact hc t ht
    · exact hp.sound c' hold t ht

theorem Sends.same (hp : p.Sends) (hq : q.InBounds) (hlog : q.log = p.log) : q.Sends where
  bounds := hq
  sound := by
    rw [hlog]
    exact hp.sound

variable (hsrc : b.srcPdo.length ≤ 7) (hsnk : b.snkPdo.length ≤ 7)

include hsrc hsnk

theorem sends_action (h : Action b p q) (hp : p.Sends) : q.Sends := by
  have hq := inBounds_action h hp.bounds
  have hid := hp.bounds.msgId
  cases h with
  | assign h => exact hp.same hq (congrArg (Vital.log ∘ Prod.fst) h)
  | enter hs hdetached h => exact hp.same hq (congrArg (Vital.log ∘ Prod.fst) h)
  | conclude hs h =>
      refine hp.record (fun t ht => ?_) hq (congrArg (Vital.log ∘ Prod.fst) h)
      rcases hs.call with rfl | rfl
      · cases ht
      · cases ht
  | transition hs h =>
      exact hp.record (fun t ht => by cases ht) hq (congrArg (Vital.log ∘ Prod.fst) h)
  | disconnect hs | noCurrent => exact hp.record (fun t ht => by cases ht) hq rfl
  | call h =>
      refine hp.record (fun t ht => ?_) hq rfl
      unfold Call.transmission at ht
      split at ht
      · cases h
      · cases ht
  | limit h => exact hp.record (fun t ht => by cases ht) hq rfl
  | rxEnable enable =>
      unfold tcpmSetRxEnable at hq ⊢
      simp only at hq ⊢
      split_ifs at hq ⊢
      · exact hp.record (c := .rxEnable enable) (fun t ht => by cases ht) hq rfl
      · exact hp.same hq rfl
  | send data htype hcrc hpsRdy hdata =>
      have hlen : data.length ≤ 7 := by
        obtain hlen | rfl | rfl := hdata
        · exact hlen
        · exact hsrc
        · exact hsnk
      refine hp.record (c := .transmit _ _ _ _) (fun t ht => ?_) hq rfl
      obtain rfl := Option.some.inj ht
      exact sound_header hid htype hcrc hlen
  | sendVdm =>
      have hcount := hp.bounds.vdoCount
      have htable := hp.bounds.vdoData
      have hlen : (p.pd.vdoData.take p.pd.vdoCount).length = p.pd.vdoCount := by
        rw [List.length_take]
        omega
      refine hp.record (c := .transmit _ _ _ _) (fun t ht => ?_) hq rfl
      obtain rfl := Option.some.inj ht
      have hsound : Sound (p.header DataMsgType.vendorDef.toNat
          (p.pd.vdoData.take p.pd.vdoCount).length, p.pd.vdoData.take p.pd.vdoCount) :=
        sound_header hid (by decide) (fun _ => by decide) (by omega)
      rwa [hlen] at hsound
  | signal htype =>
      rename_i type
      refine hp.record (c := .transmit _ _ _ _) (fun t ht => ?_) hq rfl
      cases type with
      | sop => exact absurd rfl htype
      | hardReset => cases ht
      | bistMode2 => cases ht
  | _ => exact hp.same hq rfl

theorem sound_transmissions (es : List Event) :
    ∀ t ∈ sopMessages (after b es).log, Sound t := by
  intro t ht
  obtain ⟨c, hc, htrans⟩ := List.mem_filterMap.1 ht
  exact (after_kept sends_setup (fun _ _ => sends_action hsrc hsnk) es).sound c
    (List.mem_reverse.1 hc) t htrans

end Port

/-! The frames are taken apart again. -/

theorem Sound.decodeFrame_frame {t : Transmission} (h : Sound t) :
    decodeFrame (frame t) = some t := by
  have hm := decodeFrame_eq ⟨t.1, t.2, h.count.symm⟩
  have hframe := fusb302TcpmTransmitSop_eq ⟨t.1, t.2, h.count.symm⟩
  unfold frame
  rw [hframe]
  exact hm

/-! The driver hands over the messages one by one. -/

/-- What a packet brings. -/
def RxPacket.brings (k : RxPacket) : Transmission := (k.msg.head, k.msg.payload)

/-- What the variables of a call hold when it begins. -/
structure CallVars where
  buf : List Byte
  payload : List Word
  head : BitVec 16

/-- The messages that `calls` calls of `fusb302_tcpm_get_message` hand over, up to the first
one that fails. -/
def getMessages (passes : Nat) (vars : Nat → CallVars) :
    Nat → RxPath → Option (List Transmission)
  | 0, _ => some []
  | calls + 1, d => do
    let v := vars calls
    let r ← fusb302TcpmGetMessage passes d v.buf v.payload v.head
    if r.rv = 0 then
      let rest ← getMessages passes vars calls r.chip
      return (r.head, r.payload.take (headerCnt r.head)) :: rest
    else return []

/-- One call on a chip with the given packets. -/
structure HandsOver (packets : List RxPacket) (r : GotMessage) : Prop where
  fits : ∀ n ∈ r.chip.reads, n ≤ 32
  result : match packets.dropWhile RxPacket.isGoodCrc with
    | [] => r.rv ≠ 0
    | k :: rest => r.rv = 0 ∧ (r.head, r.payload.take (headerCnt r.head)) = k.brings ∧
        r.chip.fifo = rest.flatMap RxPacket.bytes

theorem exists_handsOver (packets : List RxPacket) {passes : Nat}
    (hpasses : packets.length ≤ passes) (d : RxPath) (hreads : ∀ n ∈ d.reads, n ≤ 32)
    (hd : d.fifo = packets.flatMap RxPacket.bytes) (v : CallVars) :
    ∃ r, fusb302TcpmGetMessage passes d v.buf v.payload v.head = some r ∧
      HandsOver packets r := by
  unfold fusb302TcpmGetMessage
  rw [RxPath.fusb302RxFifoIsEmpty_eq]
  cases packets with
  | nil =>
      simp only [hd, List.flatMap_nil, decide_true, if_true]
      exact ⟨_, rfl, hreads, Nat.one_ne_zero⟩
  | cons k packets =>
      have hmore : d.fifo ≠ [] := by
        rw [hd]
        exact fun hnil => List.cons_ne_nil _ _ (flatMap_bytes_eq_nil.1 hnil)
      obtain ⟨extra, rfl⟩ := Nat.exists_eq_add_of_le hpasses
      obtain ⟨r, hr, hparsed⟩ := readPackets_parsed k packets extra v.buf d.status1
        tcpcRegStatus1 hreads
      have hcount : (k :: packets).length + extra = packets.length + extra + 1 := by
        rw [List.length_cons, Nat.add_right_comm]
      simp only [hmore, decide_false, Bool.false_eq_true, if_false, hcount]
      rw [← hd] at hr
      simp only [hr, Option.map_some, hparsed.rv, if_true]
      refine ⟨_, rfl, ?_⟩
      have hresult := hparsed.result
      have hfirst := List.head?_dropWhile_not RxPacket.isGoodCrc (k :: packets)
      by_cases hcrc : packetIsGoodCrc r.head = true
      · rw [if_pos hcrc]
        refine ⟨hparsed.fits, ?_⟩
        cases hdrop : (k :: packets).dropWhile RxPacket.isGoodCrc with
        | nil => exact Nat.one_ne_zero
        | cons found rest =>
            rw [hdrop] at hresult hfirst
            rw [hresult.1] at hcrc
            exact absurd hcrc (Bool.eq_false_iff.1 hfirst)
      · rw [if_neg hcrc]
        refine ⟨hparsed.fits, ?_⟩
        cases hdrop : (k :: packets).dropWhile RxPacket.isGoodCrc with
        | nil =>
            rw [hdrop] at hresult
            exact absurd hresult.1 hcrc
        | cons found rest =>
            rw [hdrop] at hresult
            obtain ⟨hhead, ⟨junk, hbuf⟩, hfifo⟩ := hresult
            refine ⟨rfl, ?_, hfifo⟩
            have hcopied := memcpyWords_eq found.msg v.payload junk
            simp only [hbuf, hhead, hcopied, RxPacket.brings]
            rw [← found.msg.length_payload, List.take_left]

/-- The messages other than GoodCRCs, in the order of the packets. -/
def handedOver (packets : List RxPacket) : List Transmission :=
  (packets.filter fun k => !k.isGoodCrc).map RxPacket.brings

theorem handedOver_eq (packets : List RxPacket) :
    handedOver packets =
      match packets.dropWhile RxPacket.isGoodCrc with
      | [] => []
      | k :: rest => k.brings :: handedOver rest := by
  induction packets with
  | nil => rfl
  | cons k packets ih =>
      by_cases hcrc : k.isGoodCrc = true
      · rw [List.dropWhile_cons_of_pos hcrc, ← ih]
        simp [handedOver, hcrc]
      · rw [List.dropWhile_cons_of_neg hcrc]
        simp [handedOver, hcrc]

/-- Each call hands over the next message, whatever GoodCRCs stand between. -/
theorem getMessages_eq {passes : Nat} (vars : Nat → CallVars) (calls : Nat)
    (packets : List RxPacket) (hpasses : packets.length ≤ passes) (d : RxPath)
    (hreads : ∀ n ∈ d.reads, n ≤ 32) (hd : d.fifo = packets.flatMap RxPacket.bytes) :
    getMessages passes vars calls d = some ((handedOver packets).take calls) := by
  induction calls generalizing packets d with
  | zero => rfl
  | succ calls ih =>
      obtain ⟨r, hr, hover⟩ := exists_handsOver packets hpasses d hreads hd (vars calls)
      have hresult := hover.result
      rw [getMessages, handedOver_eq]
      simp only [hr, Option.bind_eq_bind, Option.bind_some]
      cases hdrop : packets.dropWhile RxPacket.isGoodCrc with
      | nil =>
          rw [hdrop] at hresult
          rw [if_neg hresult]
          rfl
      | cons k rest =>
          rw [hdrop] at hresult
          obtain ⟨hrv, hbrings, hfifo⟩ := hresult
          have hshorter : rest.length ≤ passes := by
            have hsuffix := (List.dropWhile_suffix (l := packets) RxPacket.isGoodCrc).length_le
            rw [hdrop, List.length_cons] at hsuffix
            omega
          rw [if_pos hrv, ih rest hshorter r.chip hover.fits hfifo, hbrings]
          rfl

/-- What a port was given to transmit is what its partner is handed over, message for message
and in order, when the chips carry the frames: every frame is taken apart into the message
it was made of, and GoodCRCs may stand anywhere between the packets. -/
theorem Port.after_delivered (b : Board) (hsrc : b.srcPdo.length ≤ 7) (hsnk : b.snkPdo.length ≤ 7)
    (es : List Event) (packets : List RxPacket) (status1 : Byte) (pointer : Nat)
    (hfifo : ((packets.filter fun k => !k.isGoodCrc).map fun k => some k.brings) =
      (sopMessages (after b es).log).map fun t => decodeFrame (frame t))
    (vars : Nat → CallVars) (calls : Nat) :
    (∀ t ∈ sopMessages (after b es).log, Sound t) ∧
      getMessages packets.length vars calls (.holding status1 pointer packets) =
        some ((sopMessages (after b es).log).take calls) := by
  have hsound := sound_transmissions hsrc hsnk es
  have hframes : (sopMessages (after b es).log).map (fun t => decodeFrame (frame t)) =
      (sopMessages (after b es).log).map some :=
    List.map_congr_left fun t ht => (hsound t ht).decodeFrame_frame
  have hover : handedOver packets = sopMessages (after b es).log := by
    refine (List.map_inj_right fun _ _ => Option.some.inj).1 ?_
    rw [handedOver, List.map_map]
    exact hfifo.trans hframes
  refine ⟨hsound, ?_⟩
  rw [← hover]
  exact getMessages_eq vars calls packets le_rfl _ (by simp [RxPath.holding]) rfl

/-- A FIFO with the two messages of a sink up to its contract, and GoodCRCs between them. -/
def packetsOfReadySink : List RxPacket :=
  let ack : RxPacket := ⟨0xE0, ⟨0x41, [], rfl⟩, 0⟩
  [ack, ⟨0xE0, ⟨0x47, [], rfl⟩, 0⟩, ack, ack, ⟨0xE0, ⟨0x1042, [268742956], rfl⟩, 0⟩]

theorem Port.delivered_readyAsSink :
    getMessages 5 (fun _ => ⟨[], [], 0⟩) 7 (.holding 0 0 packetsOfReadySink) =
      some [(0x47, []), (0x1042, [268742956])] := by
  have hdelivered := (after_delivered .shipped (by decide) (by decide) readyAsSink
    packetsOfReadySink 0 0 (by decide +kernel) (fun _ => ⟨[], [], 0⟩) 7).2
  exact hdelivered.trans (by decide +kernel)

end UsbPd
