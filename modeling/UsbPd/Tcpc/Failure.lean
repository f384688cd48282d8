import UsbPd.Tcpc.Bus

/-!
# Failures on the bus

An operation of the driver should report that a transfer failed and write nothing that a
failed read left. The operations do not see failures: they return what they would have
returned without them. What saves `fusb302_tcpm_get_message` now and then is that a failed
read of STATUS1 looks like an empty FIFO.
-/

namespace UsbPd

/-- An operation of the driver, with the driver's record where it uses it. -/
inductive DriverOp where
  | setCc (st : ChipState) (pull : CcPull)
  | setPolarity (st : ChipState) (polarity : Int)
  | setVconn (st : ChipState) (enable : Bool)
  | setMsgHeader (powerRole dataRole : Bool)
  | setRxEnable (st : ChipState) (enable : Bool)
  | selectRpValue (st : ChipState) (rp : RpValue)
  | transmit (type : TcpmTransmitType) (header : BitVec 16) (data : List Word)
  | getMessage (buf : List Byte) (payload : List Word) (head : BitVec 16)

/-- What the caller of an operation gets: the code, and the payload of a message. -/
structure Outcome where
  code : Nat
  payload : List Word

namespace DriverOp

/-- The payload that the caller passes. -/
def payload : DriverOp → List Word
  | getMessage _ payload _ => payload
  | _ => []

/-- The program of an operation, with a limit to the passes of the one loop. -/
def program (passes : Nat) : DriverOp → Bus (Option Outcome)
  | setCc st pull => do
    let r ← Bus.setCc st pull
    return some ⟨r.1.code, []⟩
  | setPolarity st polarity => do
    let r ← Bus.setPolarity st polarity
    return some ⟨r.1.code, []⟩
  | setVconn st enable => do
    let r ← Bus.setVconn st enable
    return some ⟨r.1.code, []⟩
  | setMsgHeader powerRole dataRole => do
    let r ← Bus.setMsgHeader powerRole dataRole
    return some ⟨r.code, []⟩
  | setRxEnable st enable => do
    let r ← Bus.setRxEnable st enable
    return some ⟨r.1.code, []⟩
  | selectRpValue st rp => do
    let r ← Bus.selectRpValue st rp
    return some ⟨r.1, []⟩
  | transmit type header data => do
    let r ← Bus.transmit type header data
    return some ⟨r.code, []⟩
  | getMessage buf payload head => do
    let r ← Bus.getMessage passes buf payload head
    return r.map fun r => ⟨r.rv, r.payload⟩

variable (op : DriverOp) (replies : Nat → Reply)

/-- The outcome and the transfers. -/
def run (passes : Nat) : Option Outcome × List Transfer := (op.program passes).answer replies

/-- If a transfer of the operation fails, it returns, with an error and without a message,
and writes nothing that a failed read left. -/
def FailureReported : Prop :=
  (∃ passes, ∃ i < (op.run replies passes).2.length, replies i = none) →
    (∃ passes o, (op.run replies passes).1 = some o) ∧
      ∀ passes,
        (∀ o, (op.run replies passes).1 = some o → o.code ≠ 0 ∧ o.payload = op.payload) ∧
          ∀ t ∈ (op.run replies passes).2, t.writesDerived = false

end DriverOp

/-! The replies to `fusb302_tcpm_get_message`: a pass of its loop is four transfers, the
first of them the read of STATUS1 before it. -/

section

variable (replies : Nat → Reply)

/-- STATUS1 before the pass `i` says that the FIFO is empty. -/
def emptyAt (i : Nat) : Bool := (replies (4 * i)).byte 0 &&& status1RxEmpty ≠ 0

/-- The pass `i` reads a GoodCRC. -/
def crcAt (i : Nat) : Bool :=
  packetIsGoodCrc (headOfBytes ((replies (4 * i + 2)).byte 1) ((replies (4 * i + 2)).byte 2))

/-- Only GoodCRCs before the pass `i`. -/
def Continues (i : Nat) : Prop := ∀ j < i, emptyAt replies j = false ∧ crcAt replies j = true

/-- The replies from the next pass on. -/
def nextPass : Nat → Reply := fun n => replies (n + 4)

variable {replies}

theorem continues_zero : Continues replies 0 := fun _ hj => absurd hj (Nat.not_lt_zero _)

theorem continues_succ {i : Nat} : Continues replies (i + 1) ↔
    (emptyAt replies 0 = false ∧ crcAt replies 0 = true) ∧ Continues (nextPass replies) i := by
  constructor
  · intro h
    exact ⟨h 0 (Nat.succ_pos i), fun j hj => h (j + 1) (Nat.succ_lt_succ hj)⟩
  · rintro ⟨hfirst, hrest⟩ j hj
    cases j with
    | zero => exact hfirst
    | succ j => exact hrest j (Nat.lt_of_succ_lt_succ hj)

/-- The FIFO was not empty before an earlier pass. -/
theorem Continues.more {i : Nat} (h : Continues replies i) (hmore : emptyAt replies i = false)
    {j : Nat} (hj : j ≤ i) : emptyAt replies j = false := by
  rcases Nat.lt_or_eq_of_le hj with hlt | rfl
  · exact (h j hlt).1
  · exact hmore

end

namespace Bus

open Machine.Dialogue

variable (replies : Nat → Reply)

theorem answer_rxFifoIsEmpty :
    rxFifoIsEmpty.answer replies = (emptyAt replies 0, [.readStatus1]) := by
  simp [rxFifoIsEmpty, tcpcReadStatus1, answer_bind, emptyAt]

/-- The bursts of a pass. -/
def bursts (inSize : Nat) : List Transfer :=
  [.xfer [BitVec.ofNat 8 tcpcRegFifos] 0, .xfer [] 3, .xfer [] inSize]

theorem length_bursts (inSize : Nat) : (bursts inSize).length = 3 := rfl

theorem writesDerived_bursts {inSize : Nat} {t : Transfer} (h : t ∈ bursts inSize) :
    t.writesDerived = false := by
  simp only [bursts, List.mem_cons, List.not_mem_nil, or_false] at h
  rcases h with rfl | rfl | rfl <;> rfl

/-- The first packet, with its buffer. -/
def packetRead (buf : List Byte) : Packet :=
  ⟨0, headOfBytes ((replies 2).byte 1) ((replies 2).byte 2), buf⟩

theorem answer_readPacket (buf : List Byte) : ∃ buf' inSize,
    (readPacket buf).answer (fun n => replies (n + 1)) =
      (packetRead replies buf', bursts inSize) := by
  have hrv : ((readPacket buf).answer fun n => replies (n + 1)).1.rv = 0 := by
    change (0 ||| 0 ||| 0 : Nat) = 0
    decide
  refine ⟨((readPacket buf).answer fun n => replies (n + 1)).1.buf,
    getNumBytes (headOfBytes ((replies 2).byte 1) ((replies 2).byte 2)) - 2 + 4, ?_⟩
  exact Prod.ext (congrArg (fun rv => Packet.mk rv _ _) hrv) rfl

/-- A pass of the loop. -/
theorem answer_readPackets_succ (buf : List Byte) : ∃ buf' inSize, ∀ passes,
    (readPackets (passes + 1) buf).answer (fun n => replies (n + 1)) =
      let rest := (readPackets passes buf').answer fun n => nextPass replies (n + 1)
      if crcAt replies 0 then
        if emptyAt replies 1 then
          (some (packetRead replies buf'), bursts inSize ++ [.readStatus1])
        else (rest.1, bursts inSize ++ .readStatus1 :: rest.2)
      else (some (packetRead replies buf'), bursts inSize) := by
  obtain ⟨buf', inSize, hread⟩ := answer_readPacket replies buf
  refine ⟨buf', inSize, fun passes => ?_⟩
  have hcrc : ((packetRead replies buf').rv = 0 ∧
      packetIsGoodCrc (packetRead replies buf').head = true) ↔ crcAt replies 0 = true :=
    and_iff_right rfl
  have hstatus : rxFifoIsEmpty.answer (fun n => replies (n + 4)) =
      (emptyAt replies 1, [.readStatus1]) :=
    answer_rxFifoIsEmpty fun n => replies (n + 4)
  rw [readPackets, answer_bind, hread]
  by_cases hgood : crcAt replies 0 = true
  · rw [if_pos (hcrc.2 hgood), if_pos hgood, answer_bind]
    have hnext : (rxFifoIsEmpty.answer fun n =>
        replies (n + (packetRead replies buf', bursts inSize).2.length + 1)) =
        (emptyAt replies 1, [.readStatus1]) := hstatus
    rw [hnext]
    by_cases hempty : emptyAt replies 1 = true
    · rw [if_pos hempty, if_pos hempty]
      rfl
    · rw [if_neg hempty, if_neg hempty]
      rfl
  · rw [if_neg fun h => hgood (hcrc.1 h), if_neg hgood]
    rfl

variable {replies}

/-- Behind GoodCRCs the loop makes the transfers of the pass `i`, and ends if the FIFO is
empty after it. -/
theorem readPackets_reaches {i : Nat} (hi : Continues replies i)
    (hmore : emptyAt replies i = false) (buf : List Byte) :
    4 * i + 3 ≤ ((readPackets (i + 1) buf).answer fun n => replies (n + 1)).2.length ∧
      (emptyAt replies (i + 1) = true →
        ∃ found, ((readPackets (i + 1) buf).answer fun n => replies (n + 1)).1 = some found) := by
  induction i generalizing replies buf with
  | zero =>
      obtain ⟨buf', inSize, hstep⟩ := answer_readPackets_succ replies buf
      rw [hstep]
      dsimp only
      split_ifs with hcrc hempty
      · exact ⟨Nat.le_add_right 3 1, fun _ => ⟨_, rfl⟩⟩
      · exact ⟨Nat.le_add_right 3 1, fun h => absurd h hempty⟩
      · exact ⟨Nat.le_refl 3, fun _ => ⟨_, rfl⟩⟩
  | succ i ih =>
      obtain ⟨⟨-, hcrc⟩, hrest⟩ := continues_succ.1 hi
      have hempty : emptyAt replies 1 = false := hi.more hmore (Nat.succ_pos i)
      obtain ⟨buf', inSize, hstep⟩ := answer_readPackets_succ replies buf
      obtain ⟨hlength, hends⟩ := ih hrest hmore buf'
      rw [hstep]
      simp only [hcrc, hempty, if_true, Bool.false_eq_true, if_false]
      refine ⟨?_, hends⟩
      rw [List.length_append, List.length_cons, length_bursts]
      omega

/-- Where the loop ends: before a packet that is not a GoodCRC, or behind GoodCRCs. -/
theorem readPackets_returned (hmore : emptyAt replies 0 = false) {passes : Nat} {buf : List Byte}
    {found : Packet}
    (h : ((readPackets passes buf).answer fun n => replies (n + 1)).1 = some found) :
    found.rv = 0 ∧ ∃ i, Continues replies i ∧ emptyAt replies i = false ∧
      packetIsGoodCrc found.head = crcAt replies i ∧
        (crcAt replies i = true → emptyAt replies (i + 1) = true) := by
  induction passes generalizing replies buf with
  | zero => cases h
  | succ passes ih =>
      obtain ⟨buf', inSize, hstep⟩ := answer_readPackets_succ replies buf
      rw [hstep] at h
      cases hcrc : crcAt replies 0 with
      | false =>
          simp only [hcrc, Bool.false_eq_true, if_false] at h
          cases h
          refine ⟨rfl, 0, continues_zero, hmore, rfl, fun hgood => ?_⟩
          rw [hcrc] at hgood
          cases hgood
      | true =>
          cases hempty : emptyAt replies 1 with
          | true =>
              simp only [hcrc, hempty, if_true] at h
              cases h
              exact ⟨rfl, 0, continues_zero, hmore, rfl, fun _ => hempty⟩
          | false =>
              simp only [hcrc, hempty, if_true, Bool.false_eq_true, if_false] at h
              obtain ⟨hrv, i, hi, hi', hhead, hlast⟩ := ih hempty h
              exact ⟨hrv, i + 1, continues_succ.2 ⟨⟨hmore, hcrc⟩, hi⟩, hi', hhead, hlast⟩

/-- The transfers of a pass are made behind GoodCRCs only. -/
theorem continues_of_asked (hmore : emptyAt replies 0 = false) {passes : Nat} {buf : List Byte}
    {q : Nat} (h : q < ((readPackets passes buf).answer fun n => replies (n + 1)).2.length) :
    Continues replies ((q + 1) / 4) := by
  induction passes generalizing replies buf q with
  | zero => cases h
  | succ passes ih =>
      obtain ⟨buf', inSize, hstep⟩ := answer_readPackets_succ replies buf
      rw [hstep] at h
      by_cases hfirst : q < 3
      · rw [Nat.div_eq_of_lt (Nat.succ_lt_succ hfirst)]
        exact continues_zero
      · cases hcrc : crcAt replies 0 with
        | false =>
            simp only [hcrc, Bool.false_eq_true, if_false] at h
            exact absurd h hfirst
        | true =>
            have hone : Continues replies 1 := continues_succ.2 ⟨⟨hmore, hcrc⟩, continues_zero⟩
            cases hempty : emptyAt replies 1 with
            | true =>
                simp only [hcrc, hempty, if_true, List.length_append, length_bursts] at h
                have hlast : (q + 1) / 4 = 1 := by
                  simp only [List.length_cons, List.length_nil] at h
                  omega
                rw [hlast]
                exact hone
            | false =>
                simp only [hcrc, hempty, if_true, Bool.false_eq_true, if_false, List.length_append,
                  List.length_cons, length_bursts] at h
                by_cases hstatus : q = 3
                · rw [hstatus]
                  exact hone
                · have hless : q - 4 < ((readPackets passes buf').answer
                      fun n => nextPass replies (n + 1)).2.length := by omega
                  have hrest := ih hempty hless
                  have hpass : (q + 1) / 4 = (q - 4 + 1) / 4 + 1 := by omega
                  rw [hpass]
                  exact continues_succ.2 ⟨⟨hmore, hcrc⟩, hrest⟩

/-- No burst writes a register. -/
theorem writesDerived_readPackets (passes : Nat) (buf : List Byte) {t : Transfer}
    (h : t ∈ ((readPackets passes buf).answer fun n => replies (n + 1)).2) :
    t.writesDerived = false := by
  induction passes generalizing replies buf with
  | zero => cases h
  | succ passes ih =>
      obtain ⟨buf', inSize, hstep⟩ := answer_readPackets_succ replies buf
      rw [hstep] at h
      dsimp only at h
      split_ifs at h
      · rcases List.mem_append.1 h with hburst | hstatus
        · exact writesDerived_bursts hburst
        · rw [List.mem_singleton.1 hstatus]
          rfl
      · rcases List.mem_append.1 h with hburst | hrest
        · exact writesDerived_bursts hburst
        · rcases List.mem_cons.1 hrest with rfl | hrest
          · rfl
          · exact ih buf' hrest
      · exact writesDerived_bursts h

/-- `fusb302_tcpm_get_message` behind the first read of STATUS1. -/
theorem answer_getMessage (passes : Nat) (buf : List Byte) (payload : List Word)
    (head : BitVec 16) :
    (getMessage passes buf payload head).answer replies =
      let rest := (readPackets passes buf).answer fun n => replies (n + 1)
      if emptyAt replies 0 then (some ⟨ecErrorUnknown, payload, head⟩, [.readStatus1])
      else (rest.1.map fun r => r.received payload, .readStatus1 :: rest.2) := by
  rw [getMessage, answer_bind, answer_rxFifoIsEmpty]
  by_cases hempty : emptyAt replies 0 = true
  · rw [if_pos hempty, if_pos hempty]
    rfl
  · rw [if_neg hempty, if_neg hempty, answer_bind]
    dsimp only
    rw [answer_pure, List.append_nil]
    rfl

end Bus

namespace DriverOp

/-- How many of its first transfers an operation relies on without looking whether they
failed. -/
def trusted : DriverOp → Nat
  | setCc _ .rp => 2
  | setCc _ .rd | setCc _ .open => 4
  | setCc _ .ra => 0
  | setPolarity _ _ => 4
  | setVconn _ enable => if enable then 4 else 2
  | setMsgHeader _ _ => 2
  | setRxEnable st enable =>
    if enable then (if st.ccPolarity ≠ 0 ∧ st.ccPolarity ≠ 1 then 0 else 7) else 6
  | selectRpValue _ _ => 2
  | transmit type _ _ =>
    match type.accepted with
    | some .sop => 3
    | some .hardReset => 4
    | some .bistMode2 => 8
    | none => 1
  | getMessage _ _ _ => 0

/-- No failure that the operation would have to report. `fusb302_tcpm_get_message` fails
anyway when STATUS1 shows an empty FIFO, or cannot be read, behind nothing but GoodCRCs. -/
def Faultless (op : DriverOp) (replies : Nat → Reply) : Prop :=
  match op with
  | getMessage _ _ _ =>
    (∃ i, Continues replies i ∧ emptyAt replies i = true) ∨
      ∀ i, Continues replies i → ∀ k < 4, replies (4 * i + k) ≠ none
  | op => ∀ i < op.trusted, replies i ≠ none

variable {op : DriverOp} {replies : Nat → Reply}

/-- An operation that always makes `n` transfers and returns 0. -/
theorem failureReported_of_silent {n : Nat}
    (h : ∀ passes, ∃ o, (op.run replies passes).1 = some o ∧ o.code = 0 ∧
      (op.run replies passes).2.length = n) :
    op.FailureReported replies ↔ ∀ i < n, replies i ≠ none := by
  obtain ⟨o, ho, hcode, hlength⟩ := h 0
  constructor
  · intro hreport i hi hfail
    have hbad := (hreport ⟨0, i, hlength.symm ▸ hi, hfail⟩).2 0
    exact (hbad.1 o ho).1 hcode
  · rintro hwork ⟨passes, i, hi, hfail⟩
    obtain ⟨-, -, -, hlength⟩ := h passes
    exact absurd hfail (hwork i (hlength ▸ hi))

/-- An operation that always makes the same transfers and returns an error. -/
theorem failureReported_of_error {o : Outcome} {transfers : List Transfer}
    (h : ∀ passes, op.run replies passes = (some o, transfers)) (hcode : o.code ≠ 0)
    (hpayload : o.payload = op.payload) :
    op.FailureReported replies ↔
      ((∃ i < transfers.length, replies i = none) → ∀ t ∈ transfers, t.writesDerived = false) := by
  unfold FailureReported
  simp only [h]
  constructor
  · intro hreport hfail
    exact ((hreport ⟨0, hfail⟩).2 0).2
  · rintro hclean ⟨-, hfail⟩
    refine ⟨⟨0, o, rfl⟩, fun passes => ⟨fun o' ho => ?_, hclean hfail⟩⟩
    cases ho
    exact ⟨hcode, hpayload⟩

section

variable (buf : List Byte) (payload : List Word) (head : BitVec 16)

theorem run_getMessage (passes : Nat) :
    (getMessage buf payload head).run replies passes =
      let rest := (Bus.readPackets passes buf).answer fun n => replies (n + 1)
      if emptyAt replies 0 then (some ⟨ecErrorUnknown, payload⟩, [.readStatus1])
      else (rest.1.map fun r => ⟨(r.received payload).rv, (r.received payload).payload⟩,
        .readStatus1 :: rest.2) := by
  unfold run program
  rw [Machine.Dialogue.answer_bind, Bus.answer_getMessage]
  by_cases hempty : emptyAt replies 0 = true
  · simp only [if_pos hempty]
    rfl
  · simp only [if_neg hempty, Machine.Dialogue.answer_pure, List.append_nil, Option.map_map]
    rfl

/-- A GoodCRC is not delivered. -/
theorem received_goodCrc {found : Bus.Packet} (hrv : found.rv = 0)
    (hcrc : packetIsGoodCrc found.head = true) (payload : List Word) :
    (found.received payload).rv = ecErrorUnknown ∧ (found.received payload).payload = payload := by
  unfold Bus.Packet.received
  rw [if_pos hrv, if_pos hcrc]
  exact ⟨rfl, rfl⟩

/-- Everything else is. -/
theorem received_packet {found : Bus.Packet} (hrv : found.rv = 0)
    (hcrc : packetIsGoodCrc found.head = false) (payload : List Word) :
    (found.received payload).rv = 0 := by
  unfold Bus.Packet.received
  rw [if_pos hrv, hcrc]
  exact hrv

/-- `fusb302_tcpm_get_message` returns behind `i` GoodCRCs. -/
theorem getMessage_returns {i : Nat} (hi : Continues replies i)
    (hempty : emptyAt replies i = true) :
    ∃ passes o, ((getMessage buf payload head).run replies passes).1 = some o := by
  cases i with
  | zero =>
      refine ⟨0, ⟨ecErrorUnknown, payload⟩, ?_⟩
      rw [run_getMessage]
      simp only [hempty, if_true]
  | succ i =>
      have hlast := hi i (Nat.lt_succ_self i)
      have hbefore : Continues replies i := fun j hj => hi j (Nat.lt_succ_of_lt hj)
      obtain ⟨found, hfound⟩ := (Bus.readPackets_reaches hbefore hlast.1 buf).2 hempty
      refine ⟨i + 1, ⟨(found.received payload).rv, (found.received payload).payload⟩, ?_⟩
      rw [run_getMessage]
      simp only [hbefore.more hlast.1 (Nat.zero_le i), Bool.false_eq_true, if_false, hfound,
        Option.map_some]

/-- If STATUS1 stops the loop behind GoodCRCs, there is an error and no message. -/
theorem getMessage_stopped {i : Nat} (hi : Continues replies i) (hempty : emptyAt replies i = true)
    {passes : Nat} {o : Outcome}
    (h : ((getMessage buf payload head).run replies passes).1 = some o) :
    o.code ≠ 0 ∧ o.payload = payload := by
  rw [run_getMessage] at h
  cases hfirst : emptyAt replies 0 with
  | true =>
      simp only [hfirst, if_true] at h
      cases h
      exact ⟨Nat.one_ne_zero, rfl⟩
  | false =>
      simp only [hfirst, Bool.false_eq_true, if_false] at h
      obtain ⟨found, hfound, rfl⟩ := Option.map_eq_some_iff.1 h
      obtain ⟨hrv, k, hk, hmore, hhead, -⟩ := Bus.readPackets_returned hfirst hfound
      have hcrc : crcAt replies k = true := by
        rcases Nat.lt_or_ge k i with hlt | hge
        · exact (hi k hlt).2
        · rw [hk.more hmore hge] at hempty
          cases hempty
      obtain ⟨hcode, hpayload⟩ := received_goodCrc hrv (hhead.trans hcrc) payload
      rw [hcode, hpayload]
      exact ⟨Nat.one_ne_zero, rfl⟩

/-- Otherwise it returns a message, or not at all. -/
theorem getMessage_delivers (hnever : ∀ i, Continues replies i → emptyAt replies i = false)
    {passes : Nat} {o : Outcome}
    (h : ((getMessage buf payload head).run replies passes).1 = some o) :
    o.code = 0 := by
  have hfirst := hnever 0 continues_zero
  rw [run_getMessage] at h
  simp only [hfirst, Bool.false_eq_true, if_false] at h
  obtain ⟨found, hfound, rfl⟩ := Option.map_eq_some_iff.1 h
  obtain ⟨hrv, k, hk, hmore, hhead, hlast⟩ := Bus.readPackets_returned hfirst hfound
  cases hcrc : crcAt replies k with
  | false => exact received_packet hrv (hhead.trans hcrc) payload
  | true =>
      have hnext : Continues replies (k + 1) := by
        intro j hj
        rcases Nat.lt_or_eq_of_le (Nat.le_of_lt_succ hj) with hlt | rfl
        · exact hk j hlt
        · exact ⟨hmore, hcrc⟩
      have hstop := hlast hcrc
      rw [hnever _ hnext] at hstop
      cases hstop

theorem writesDerived_getMessage (passes : Nat) :
    ∀ t ∈ ((getMessage buf payload head).run replies passes).2, t.writesDerived = false := by
  intro t ht
  rw [run_getMessage] at ht
  dsimp only at ht
  split_ifs at ht
  · rw [List.mem_singleton.1 ht]
    rfl
  · rcases List.mem_cons.1 ht with rfl | hrest
    · rfl
    · exact Bus.writesDerived_readPackets passes buf hrest

theorem failureReported_getMessage :
    (getMessage buf payload head).FailureReported replies ↔
      (getMessage buf payload head).Faultless replies := by
  by_cases hstop : ∃ i, Continues replies i ∧ emptyAt replies i = true
  · refine iff_of_true (fun _ => ?_) (Or.inl hstop)
    obtain ⟨i, hi, hempty⟩ := hstop
    refine ⟨getMessage_returns buf payload head hi hempty, fun passes => ⟨fun o ho => ?_, ?_⟩⟩
    · exact getMessage_stopped buf payload head hi hempty ho
    · exact writesDerived_getMessage buf payload head passes
  · have hnever : ∀ i, Continues replies i → emptyAt replies i = false := fun i hi =>
      Bool.eq_false_iff.2 fun hempty => hstop ⟨i, hi, hempty⟩
    have hfirst := hnever 0 continues_zero
    constructor
    · refine fun hreport => Or.inr fun i hi k hk hfail => ?_
      obtain ⟨hlength, -⟩ := Bus.readPackets_reaches hi (hnever i hi) buf
      have hmade : 4 * i + k < ((getMessage buf payload head).run replies (i + 1)).2.length := by
        rw [run_getMessage]
        simp only [hfirst, Bool.false_eq_true, if_false, List.length_cons]
        omega
      obtain ⟨⟨passes, o, ho⟩, hcorrect⟩ := hreport ⟨i + 1, 4 * i + k, hmade, hfail⟩
      exact ((hcorrect passes).1 o ho).1 (getMessage_delivers buf payload head hnever ho)
    · rintro (hstopped | hwork) ⟨passes, q, hq, hfail⟩
      · exact absurd hstopped hstop
      · rw [run_getMessage] at hq
        simp only [hfirst, Bool.false_eq_true, if_false, List.length_cons] at hq
        have hpass : Continues replies (q / 4) := by
          cases q with
          | zero => exact continues_zero
          | succ q => exact Bus.continues_of_asked hfirst (Nat.lt_of_succ_lt_succ hq)
        have hworks := hwork (q / 4) hpass (q % 4) (Nat.mod_lt q (by decide))
        rw [Nat.div_add_mod] at hworks
        exact absurd hfail hworks

end

theorem failureReported_setRxEnable (st : ChipState) :
    (setRxEnable st true).FailureReported replies ↔
      (setRxEnable st true).Faultless replies := by
  by_cases hunknown : st.ccPolarity ≠ 0 ∧ st.ccPolarity ≠ 1
  · have hrun : ∀ passes, (setRxEnable st true).run replies passes =
        (some ⟨EcResult.errorUnknown.code, []⟩, [.read .switches0]) := by
      intro passes
      unfold run program Bus.setRxEnable
      simp only [if_true, if_pos hunknown]
      rfl
    have htrusted : (setRxEnable st true).trusted = 0 := if_pos hunknown
    refine (failureReported_of_error hrun Nat.one_ne_zero rfl).trans (iff_of_true ?_ ?_)
    · intro _ t ht
      rw [List.mem_singleton.1 ht]
      rfl
    · change ∀ i < (setRxEnable st true).trusted, replies i ≠ none
      rw [htrusted]
      exact fun i hi => absurd hi (Nat.not_lt_zero i)
  · have htrusted : (setRxEnable st true).trusted = 7 := if_neg hunknown
    change _ ↔ ∀ i < (setRxEnable st true).trusted, replies i ≠ none
    rw [htrusted]
    refine failureReported_of_silent fun passes => ?_
    unfold run program Bus.setRxEnable
    simp only [if_true, if_neg hunknown]
    exact ⟨_, rfl, rfl, rfl⟩

/-- A transmit type that is refused, but only after the flush of the FIFO. -/
theorem failureReported_transmit {type : TcpmTransmitType} (htype : type.accepted = none)
    (header : BitVec 16) (data : List Word) :
    (transmit type header data).FailureReported replies ↔
      (transmit type header data).Faultless replies := by
  have hrun : ∀ passes, (transmit type header data).run replies passes =
      (some ⟨EcResult.errorUnimplemented.code, []⟩, [.read .control0, .write .control0
        ⟨(replies 0).byte 0 ||| Fusb302.control0TxFlush, (replies 0).isNone⟩]) := by
    intro passes
    cases type <;> cases htype <;> rfl
  have htrusted : (transmit type header data).trusted = 1 := by
    cases type <;> cases htype <;> rfl
  refine (failureReported_of_error hrun (Nat.succ_ne_zero 1) rfl).trans ?_
  change _ ↔ ∀ i < (transmit type header data).trusted, replies i ≠ none
  rw [htrusted]
  constructor
  · intro hclean i hi hfail
    rw [Nat.lt_one_iff.1 hi] at hfail
    have hwrite := hclean ⟨0, Nat.two_pos, hfail⟩ _
      (List.mem_cons_of_mem _ (List.mem_singleton_self _))
    rw [hfail] at hwrite
    cases hwrite
  · intro hwork _ t ht
    have hread : (replies 0).isNone = false :=
      Bool.eq_false_iff.2 fun hnone => hwork 0 Nat.one_pos (Option.isNone_iff_eq_none.1 hnone)
    simp only [List.mem_cons, List.not_mem_nil, or_false] at ht
    rcases ht with rfl | rfl
    · rfl
    · exact hread

/-- Bus failures are reported and not acted on exactly if there are none among the
transfers that the operation trusts, or STATUS1 ends `fusb302_tcpm_get_message` anyway. -/
theorem failureReported_iff (op : DriverOp) (replies : Nat → Reply) :
    op.FailureReported replies ↔ op.Faultless replies := by
  cases op with
  | setCc st pull =>
      cases pull with
      | ra =>
          refine (failureReported_of_error (fun passes => rfl) (Nat.succ_ne_zero 1) rfl).trans ?_
          exact iff_of_true (fun h => by simp at h) fun i hi => absurd hi (Nat.not_lt_zero i)
      | rp => exact failureReported_of_silent fun passes => ⟨_, rfl, rfl, rfl⟩
      | rd => exact failureReported_of_silent fun passes => ⟨_, rfl, rfl, rfl⟩
      | «open» => exact failureReported_of_silent fun passes => ⟨_, rfl, rfl, rfl⟩
  | setPolarity st polarity => exact failureReported_of_silent fun passes => ⟨_, rfl, rfl, rfl⟩
  | setVconn st enable =>
      cases enable with
      | false => exact failureReported_of_silent fun passes => ⟨_, rfl, rfl, rfl⟩
      | true => exact failureReported_of_silent fun passes => ⟨_, rfl, rfl, rfl⟩
  | setMsgHeader powerRole dataRole =>
      exact failureReported_of_silent fun passes => ⟨_, rfl, rfl, rfl⟩
  | setRxEnable st enable =>
      cases enable with
      | false => exact failureReported_of_silent fun passes => ⟨_, rfl, rfl, rfl⟩
      | true => exact failureReported_setRxEnable st
  | selectRpValue st rp =>
      cases rp <;> exact failureReported_of_silent fun passes => ⟨_, rfl, rfl, rfl⟩
  | transmit type header data =>
      cases htype : type.accepted with
      | none => exact failureReported_transmit htype header data
      | some accepted =>
          cases type <;> cases htype <;>
            exact failureReported_of_silent fun passes => ⟨_, rfl, rfl, rfl⟩
  | getMessage buf payload head => exact failureReported_getMessage buf payload head

/-- Without a bus the pull-ups are selected with the bits that a failed read left, and
nobody learns of it. -/
theorem not_failureReported_setCc :
    (setCc ⟨0, false, false, false, 0, 0⟩ .rp).run (fun _ => none) 0 =
        (some ⟨0, []⟩, [.read .switches0, .write .switches0 ⟨0xCC, true⟩]) ∧
      ¬(setCc ⟨0, false, false, false, 0, 0⟩ .rp).FailureReported fun _ => none := by
  refine ⟨rfl, fun hreport => ?_⟩
  have hfailed := (hreport ⟨0, 0, Nat.two_pos, rfl⟩).2 0
  exact (hfailed.1 ⟨0, []⟩ rfl).1 rfl

end DriverOp

end UsbPd
