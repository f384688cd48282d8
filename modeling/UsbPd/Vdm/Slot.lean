import UsbPd.Frame.Step
import UsbPd.Link.Collision

/-!
# The queue for one VDM

A queued VDM waits to be sent, is answered, refused with Busy and tried again,
or fails. `VdmSlot` is this queue without the port around it; the port refines
it: its VDM state machine polls the slot, a received VDM answers it, and a READY
state that asks for the identity of the partner fills it. Nothing else in an
iteration touches it.
-/

namespace UsbPd

/-- `vdm_state`, `vdm_timeout`, `vdo_data`, `vdo_count` and `vdo_retry`. -/
structure VdmSlot where
  state : VdmState
  timeout : Nat
  data : List Word
  count : Nat
  retry : Word
  deriving DecidableEq

namespace VdmSlot

variable (s : VdmSlot)

/-- The VDM in the slot, its header first. -/
def vdm : List Word := s.data.take s.count

/-- The VDM waits to be sent, for its answer or for its retry. -/
def outstanding : Bool := s.state = .ready ∨ s.state = .busy ∨ s.state = .waitRspBusy

/-- A Busy answer has been waited out: the VDM is built again. -/
def retries (now : Nat) : Bool := s.state = .waitRspBusy ∧ s.timeout < now

/-- A VDM enters the slot. -/
def queue (header : Word) (data : List Word) : VdmSlot :=
  { s with
    count := data.length + 1
    data := header :: (data ++ s.data.drop (data.length + 1))
    state := .ready }

/-- The slot is polled by a port that is connected or not, in a READY state or not,
and whose transmissions succeed or not. -/
def poll (connected ready succeeds : Bool) (now : Nat) : VdmSlot :=
  match s.state with
  | .ready =>
    if ¬ connected then { s with state := .errBusy }
    else if ¬ ready then s
    else if succeeds then
      { s with state := .busy, timeout := now + vdmGetReadyTimeout (firstObject s.data) }
    else { s with state := .errSend }
  | .waitRspBusy =>
    if s.timeout < now then
      { s with data := s.retry :: s.data.drop 1, count := 1, state := .ready }
    else s
  | .busy =>
    if s.timeout ≠ 0 ∧ s.timeout < now then { s with state := .errTmout } else s
  | _ => s

/-- A VDM with the header `hdr` arrives. -/
def answer (now : Nat) (hdr : Word) : VdmSlot :=
  if s.state = .busy then
    if pdVdoCmdt hdr = 3 then
      { s with timeout := now + pdTVdmBusy, state := .waitRspBusy, retry := hdr &&& ~~~0xC0 }
    else { s with state := .done }
  else s

theorem vdm_queue (header : Word) (data : List Word) :
    (s.queue header data).vdm = header :: data := by
  simp [queue, vdm]

@[simp] theorem outstanding_queue (header : Word) (data : List Word) :
    (s.queue header data).outstanding = true := rfl

/-- A retry is ready to be sent. -/
theorem poll_of_retries {now : Nat} (h : s.retries now = true) (connected ready succeeds : Bool) :
    s.poll connected ready succeeds now =
      { s with data := s.retry :: s.data.drop 1, count := 1, state := .ready } := by
  simp only [retries, decide_eq_true_eq] at h
  simp only [poll, h.1, h.2, if_true]

/-- Without a retry a poll moves an outstanding VDM on, or it changes nothing. -/
theorem poll_cases {now : Nat} (h : s.retries now = false) (connected ready succeeds : Bool) :
    s.poll connected ready succeeds now = s ∨
      (s.outstanding = true ∧ ∃ t ∈ [VdmState.busy, .errBusy, .errSend, .errTmout], ∃ timeout,
        s.poll connected ready succeeds now = { s with state := t, timeout := timeout }) := by
  unfold poll
  cases hstate : s.state with
  | ready =>
      have hout : s.outstanding = true := by simp [outstanding, hstate]
      simp only
      split_ifs
      · exact .inr ⟨hout, .busy, by decide, _, rfl⟩
      · exact .inr ⟨hout, .errSend, by decide, s.timeout, rfl⟩
      · exact .inl rfl
      · exact .inr ⟨hout, .errBusy, by decide, s.timeout, rfl⟩
  | busy =>
      have hout : s.outstanding = true := by simp [outstanding, hstate]
      simp only
      split_ifs
      · exact .inr ⟨hout, .errTmout, by decide, s.timeout, rfl⟩
      · exact .inl rfl
  | waitRspBusy =>
      have hwaits : ¬ s.timeout < now := by simpa [retries, hstate] using h
      exact .inl (if_neg hwaits)
  | _ => exact .inl rfl

/-- Only a retry changes what is in the slot. -/
theorem vdm_poll (connected ready succeeds : Bool) (now : Nat) :
    (s.poll connected ready succeeds now).vdm = if s.retries now then [s.retry] else s.vdm := by
  cases hretry : s.retries now with
  | true =>
      rw [poll_of_retries s hretry]
      simp [vdm]
  | false =>
      rcases s.poll_cases hretry connected ready succeeds with h | ⟨-, t, -, timeout, h⟩
      · rw [h]
        rfl
      · rw [h]
        rfl

/-- A poll frees the slot by way of an error state only. -/
theorem state_poll (h : s.outstanding = true) (connected ready succeeds : Bool) (now : Nat) :
    (s.poll connected ready succeeds now).outstanding = true ∨
      (s.poll connected ready succeeds now).state ∈
        [VdmState.errBusy, .errSend, .errTmout] := by
  cases hretry : s.retries now with
  | true =>
      rw [poll_of_retries s hretry]
      exact .inl rfl
  | false =>
      rcases s.poll_cases hretry connected ready succeeds with
        hsame | ⟨-, t, ht, timeout, hmoved⟩
      · rw [hsame]
        exact .inl h
      · rw [hmoved]
        rcases List.mem_cons.1 ht with rfl | herror
        · exact .inl rfl
        · exact .inr herror

/-- A poll takes up nothing: what is outstanding or waits after it was so before. -/
theorem of_poll (connected ready succeeds : Bool) (now : Nat) :
    (s.poll connected ready succeeds now).retry = s.retry ∧
      ((s.poll connected ready succeeds now).outstanding = true → s.outstanding = true) ∧
      ((s.poll connected ready succeeds now).state = .waitRspBusy → s.state = .waitRspBusy) := by
  cases hretry : s.retries now with
  | true =>
      have hwaits := hretry
      simp only [retries, decide_eq_true_eq] at hwaits
      rw [poll_of_retries s hretry]
      exact ⟨rfl, fun _ => by simp [outstanding, hwaits.1], fun _ => hwaits.1⟩
  | false =>
      rcases s.poll_cases hretry connected ready succeeds with
        hsame | ⟨hout, t, ht, timeout, hmoved⟩
      · rw [hsame]
        exact ⟨rfl, id, id⟩
      · rw [hmoved]
        refine ⟨rfl, fun _ => hout, fun hwaits => ?_⟩
        subst hwaits
        exact absurd ht (by decide)

@[simp] theorem vdm_answer (now : Nat) (hdr : Word) : (s.answer now hdr).vdm = s.vdm := by
  unfold answer
  split_ifs <;> rfl

end VdmSlot

namespace Port

def vdmSlot (p : Port) : VdmSlot where
  state := p.pd.vdmState
  timeout := p.pd.vdmTimeout
  data := p.pd.vdoData
  count := p.pd.vdoCount
  retry := p.pd.vdoRetry

/-- A READY state asks for the identity of the partner: the VDM state is not BUSY and
nothing else comes first. -/
def asksIdentity (p : Port) : Bool :=
  p.pd.vdmState ≠ .busy ∧ p.identityPending ∧
    ((p.pd.taskState = .snkReady ∧ ¬ p.pd.newPowerRequest) ∨
      (p.pd.taskState = .srcReady ∧ ¬ p.pd.flags.updateSrcCaps ∧
        ¬ (¬ p.pd.flags.snkCapRecvd ∧ toInt32 (p.st.snkCapCount + 1) ≤ pdSnkCapRetries)))

/-- The VDM that asks for the identity. -/
def discoverIdentity : Word := vdo usbSidPd true cmdDiscoverIdent

variable (p : Port)

theorem vdmSlot_of_does {W : List Part} {K : List CallKind} {q : Port} (h : Does W K p q)
    (hW : Part.vdm ∉ W) : q.vdmSlot = p.vdmSlot := by
  have hkept : q.part .vdm = p.part .vdm := h.keeps .vdm hW
  obtain ⟨hstate, hrest⟩ := Prod.mk.inj hkept
  obtain ⟨htimeout, hrest⟩ := Prod.mk.inj hrest
  obtain ⟨hdata, hrest⟩ := Prod.mk.inj hrest
  obtain ⟨hcount, hretry⟩ := Prod.mk.inj hrest
  simp only [vdmSlot, hstate, htimeout, hdata, hcount, hretry]

/-- The VDM state machine of the port polls the slot. -/
theorem vdmSlot_pdVdmSendStateMachine (now : Nat) :
    (p.pdVdmSendStateMachine now).vdmSlot =
      p.vdmSlot.poll p.pdIsConnected (!p.pdoBusy) (p.pd.txStatus == .success) now := by
  have hstate : p.vdmSlot.state = p.pd.vdmState := rfl
  unfold pdVdmSendStateMachine VdmSlot.poll
  rw [hstate]
  cases p.pd.vdmState with
  | ready =>
      cases hconn : p.pdIsConnected with
      | false => rfl
      | true =>
          cases hbusy : p.pdoBusy with
          | true => rfl
          | false =>
              simp only [not_true_eq_false, Bool.false_eq_true, if_false, Bool.not_false,
                sendQueuedVdm, pdTransmit, pdCommIsEnabled, if_true]
              by_cases hsucceeds : p.pd.txStatus = .success
              · simp only [hsucceeds]
                rfl
              · simp only [hsucceeds, beq_eq_false_iff_ne.2 hsucceeds, Bool.false_eq_true,
                  if_false]
                rfl
  | waitRspBusy =>
      have htimeout : p.vdmSlot.timeout = p.pd.vdmTimeout := rfl
      simp only [htimeout]
      split_ifs <;> rfl
  | busy =>
      have htimeout : p.vdmSlot.timeout = p.pd.vdmTimeout := rfl
      simp only [htimeout]
      split_ifs <;> rfl
  | _ => rfl

/-- The port transmits the VDM in the slot in this poll. -/
def sendsVdm (p : Port) : Bool := p.pd.vdmState = .ready ∧ p.pdIsConnected ∧ ¬ p.pdoBusy

/-- What the VDM state machine transmits is what is in the slot, announced with its
number of objects. -/
theorem log_pdVdmSendStateMachine (now : Nat) :
    (p.pdVdmSendStateMachine now).log =
      if p.sendsVdm then
        .transmit .sop (p.header DataMsgType.vendorDef.toNat p.pd.vdoCount) p.vdmSlot.vdm
          (if p.pd.txStatus = .success then 1 else -1) :: p.log
      else p.log := by
  unfold pdVdmSendStateMachine sendsVdm
  cases p.pd.vdmState with
  | ready =>
      by_cases hconn : p.pdIsConnected = true
      · by_cases hbusy : p.pdoBusy = true
        · simp [hconn, hbusy]
        · simp only [hconn, hbusy, not_true_eq_false, if_false, sendQueuedVdm]
          simp only [Bool.not_eq_true] at hbusy
          split_ifs <;> simp_all [pdTransmit, pdCommIsEnabled, vdmSlot, VdmSlot.vdm]
      · simp [hconn]
  | waitRspBusy =>
      simp only [reduceCtorEq, false_and, decide_false, Bool.false_eq_true, if_false]
      split_ifs <;> rfl
  | busy =>
      simp only [reduceCtorEq, false_and, decide_false, Bool.false_eq_true, if_false]
      split_ifs <;> rfl
  | _ => simp

/-- A received VDM answers the slot. -/
theorem vdmSlot_handleVdmRequest (now : Nat) (payload : List Word) :
    (p.handleVdmRequest now payload).vdmSlot = p.vdmSlot.answer now (firstObject payload) := by
  have hstate : p.vdmSlot.state = p.pd.vdmState := rfl
  unfold handleVdmRequest VdmSlot.answer
  simp only [pdSvdm, pdCustomVdm, ite_self, hstate]
  by_cases hbusy : p.pd.vdmState = .busy
  · by_cases hretry : pdVdoCmdt (firstObject payload) = 3
    · simp only [hbusy, hretry, and_self, if_true]
      rfl
    · simp only [hbusy, hretry, and_false, if_true, if_false]
      rfl
  · simp only [hbusy, false_and, if_false]

/-- The header of a VDM that an iteration hands over. -/
def vdmArrives (p : Port) (inp : Input) : Option Word :=
  match inp.message with
  | some m => if p.pdIsConnected ∧ m.isData .vendorDef then some (firstObject m.payload) else none
  | none => none

/-- Only a VDM writes the slot. -/
theorem vdm_notMem_writes {m : PdMsg} (h : m.isData .vendorDef = false) :
    Part.vdm ∉ m.writes := by
  unfold PdMsg.writes
  by_cases hcnt : headerCnt m.head = 0
  · rw [if_neg (not_not.2 hcnt)]
    cases CtrlMsgType.ofField (headerType m.head) with
    | none => decide
    | some type => cases type <;> decide
  · rw [if_pos hcnt]
    have hother : DataMsgType.ofField (headerType m.head) ≠ some .vendorDef := by
      simpa [PdMsg.isData, hcnt] using h
    cases htype : DataMsgType.ofField (headerType m.head) with
    | none => decide
    | some type =>
        cases type with
        | vendorDef => exact absurd htype hother
        | _ => decide

theorem vdmSlot_receive (b : Board) (inp : Input) :
    (p.receive b inp).vdmSlot = match p.vdmArrives inp with
      | some hdr => p.vdmSlot.answer (inp.time .message) hdr
      | none => p.vdmSlot := by
  unfold receive vdmArrives
  cases inp.message with
  | none => rfl
  | some m =>
      have hrecord : (p.record (.received m)).vdmSlot = p.vdmSlot := rfl
      have hconn : (p.record (.received m)).pdIsConnected = p.pdIsConnected := rfl
      by_cases hvdm : p.pdIsConnected = true ∧ m.isData .vendorDef = true
      · obtain ⟨hconnected, hdata⟩ := hvdm
        simp only [hconnected, hdata, and_self, if_true]
        rw [← hrecord, ← vdmSlot_handleVdmRequest]
        simp only [PdMsg.isData, decide_eq_true_eq] at hdata
        simp only [handleRequest, hconn, hconnected, not_true_eq_false, if_false, hdata.1, ne_eq,
          not_false_eq_true, if_true, handleDataRequest, hdata.2]
      · simp only [hvdm, if_false]
        rw [← hrecord]
        by_cases hconnected : p.pdIsConnected = true
        · have hdata : m.isData .vendorDef = false := by simpa [hconnected] using hvdm
          exact vdmSlot_of_does _ (does_handleRequest _ b _ m) (vdm_notMem_writes hdata)
        · have hdropped : (p.record (.received m)).handleRequest b (inp.time .message) m =
              p.record (.received m) := if_pos hconnected
          rw [hdropped]

theorem vdmSlot_readyChecks {q : Port} (h : p.readyChecks = some q) :
    q.vdmSlot = if p.identityPending then p.vdmSlot.queue discoverIdentity [] else p.vdmSlot := by
  unfold readyChecks at h
  split_ifs at h with hpr hdr hidentity
  · obtain rfl := Option.some.inj h
    simp [identityPending, roleCheckDue, hpr]
    rfl
  · obtain rfl := Option.some.inj h
    simp [identityPending, roleCheckDue, hdr]
    rfl
  · obtain rfl := Option.some.inj h
    simp [identityPending, roleCheckDue, hpr, hdr, hidentity]
    rfl

/-- The policy checks, and what the READY states do when none was pending. -/
theorem vdmSlot_checksOr {q : Port} (hq : q.vdmSlot = p.vdmSlot) :
    (p.readyChecks.getD q).vdmSlot =
      if p.identityPending then p.vdmSlot.queue discoverIdentity [] else p.vdmSlot := by
  cases hchecks : p.readyChecks with
  | none =>
      have hidentity := (p.readyChecks_eq_none hchecks).2
      simpa [hidentity] using hq
  | some r => exact p.vdmSlot_readyChecks hchecks

theorem vdmSlot_snkReady (htask : p.pd.taskState = .snkReady) : p.snkReady.vdmSlot =
    if p.asksIdentity then p.vdmSlot.queue discoverIdentity [] else p.vdmSlot := by
  unfold snkReady asksIdentity
  by_cases hbusy : p.pd.vdmState = .busy
  · simp [hbusy]
  by_cases hnew : p.pd.newPowerRequest = true
  · have hsent := does_pdSendRequestMsg p false
    have hleft := hsent.trans (does_setState _ .softReset)
    simp only [evt, hbusy, hnew, htask]
    simp only [Bool.false_eq_true, or_self, if_false, if_true, not_true_eq_false, and_false,
      reduceCtorEq, false_and, decide_false]
    split_ifs
    · exact p.vdmSlot_of_does hleft (by decide)
    · exact p.vdmSlot_of_does hsent (by decide)
  · have hchecks := p.vdmSlot_checksOr (q := p) rfl
    simpa [evt, hbusy, hnew, htask] using hchecks

theorem vdmSlot_srcReady (b : Board) (htask : p.pd.taskState = .srcReady) :
    (p.srcReady b).vdmSlot =
      if p.asksIdentity then p.vdmSlot.queue discoverIdentity [] else p.vdmSlot := by
  have hcaps : Does [.chip] [.caps, .sop] p (p.sendSourceCap b).2 := p.does_sendSourceCap b
  unfold srcReady
  by_cases hbusy : p.pd.vdmState = .busy
  · simp [asksIdentity, hbusy]
  rw [if_neg (by simp [evt, hbusy])]
  by_cases hupdate : p.pd.flags.updateSrcCaps = true
  · have hasks : p.asksIdentity = false := by simp [asksIdentity, htask, hupdate]
    rw [if_pos hupdate, hasks]
    simp only [Bool.false_eq_true, if_false]
    split_ifs
    · have hleft := hcaps.trans (does_setState _ .srcNegociate)
      have hslot : ((p.sendSourceCap b).2.setState .srcNegociate).vdmSlot = p.vdmSlot :=
        p.vdmSlot_of_does hleft (by decide)
      exact hslot
    · exact p.vdmSlot_of_does hcaps (by decide)
  rw [if_neg hupdate]
  by_cases hsnk : ¬ p.pd.flags.snkCapRecvd = true ∧
      toInt32 (p.st.snkCapCount + 1) ≤ pdSnkCapRetries
  · have hasks : p.asksIdentity = false := by simp [asksIdentity, htask, hsnk]
    rw [if_pos hsnk, hasks]
    exact vdmSlot_of_does (p.modifySt _) ((does_sendControl _ (by decide)).trans
      (does_setState _ .srcGetSinkCap)) (by decide)
  · have hsnk' : p.pd.flags.snkCapRecvd = true ∨
        pdSnkCapRetries < toInt32 (p.st.snkCapCount + 1) := by
      by_contra hmissing
      rw [not_or, Int.not_lt] at hmissing
      exact hsnk hmissing
    have hasks : p.asksIdentity = p.identityPending := by
      cases hidentity : p.identityPending with
      | false => simp [asksIdentity, hidentity]
      | true => simpa [asksIdentity, htask, hbusy, hupdate, hidentity] using hsnk'
    rw [if_neg hsnk, hasks]
    simp only
    generalize hq : (if p.pd.flags.snkCapRecvd = true then p else p.modifySt _ : Port) = q
    have hcounted : q.vdmSlot = p.vdmSlot ∧ q.identityPending = p.identityPending := by
      rw [← hq]
      split_ifs <;> exact ⟨rfl, rfl⟩
    rw [← hcounted.1, ← hcounted.2]
    exact q.vdmSlot_checksOr (vdmSlot_of_does _ q.does_srcPing (by decide))

/-- The switch fills the slot in a READY state that asks for the identity, and leaves
it alone otherwise. -/
theorem vdmSlot_runState (b : Board) (inp : Input) :
    (p.runState b inp).vdmSlot =
      if p.asksIdentity then p.vdmSlot.queue discoverIdentity [] else p.vdmSlot := by
  by_cases hsnk : p.pd.taskState = .snkReady
  · rw [← p.vdmSlot_snkReady hsnk]
    simp only [runState, hsnk]
  by_cases hsrc : p.pd.taskState = .srcReady
  · rw [← p.vdmSlot_srcReady b hsrc]
    simp only [runState, hsrc]
  · have hasks : p.asksIdentity = false := by simp [asksIdentity, hsnk, hsrc]
    rw [hasks]
    refine p.vdmSlot_of_does (p.does_runState b inp) ?_
    generalize p.pd.taskState = task at *
    cases task <;> first | exact absurd rfl hsnk | exact absurd rfl hsrc | decide

/-- The slot at the three points of an iteration: after the poll, after the message and
after the switch. -/
theorem vdmSlot_beforeMessage (inp : Input) :
    (p.beforeMessage inp).vdmSlot =
      p.vdmSlot.poll (p.applyReset inp.reset).pdIsConnected (!(p.applyReset inp.reset).pdoBusy)
        (p.pd.txStatus == .success) (inp.time .vdm) := by
  have hslot : (p.applyReset inp.reset).vdmSlot = p.vdmSlot :=
    p.vdmSlot_of_does (p.does_applyReset inp.reset) (by decide)
  have htx : (p.applyReset inp.reset).pd.txStatus = p.pd.txStatus := by
    cases inp.reset <;> rfl
  unfold beforeMessage
  rw [checkBoardAndEvents_eq, vdmSlot_pdVdmSendStateMachine, hslot, htx]

theorem vdmSlot_beforeSwitch (b : Board) (inp : Input) :
    (p.beforeSwitch b inp).vdmSlot = match (p.beforeMessage inp).vdmArrives inp with
      | some hdr => (p.beforeMessage inp).vdmSlot.answer (inp.time .message) hdr
      | none => (p.beforeMessage inp).vdmSlot := by
  unfold beforeSwitch
  rw [← vdmSlot_receive _ b, vdmSlot_of_does _ (does_applySuspend _) (by decide)]

theorem vdmSlot_iterate (b : Board) (inp : Input) :
    (p.step b (.iterate inp)).vdmSlot =
      if (p.beforeSwitch b inp).asksIdentity then
        (p.beforeSwitch b inp).vdmSlot.queue discoverIdentity []
      else (p.beforeSwitch b inp).vdmSlot := by
  rw [← vdmSlot_runState _ b inp]
  exact vdmSlot_of_does _ (does_finish _ _ inp) (by decide)

/-- Apart from an iteration only `pd_send_vdm` writes the slot. -/
theorem vdmSlot_call (b : Board) {e : Event} (he : e.iterates = false)
    (hsend : ∀ vid cmd data, e ≠ .sendVdm vid cmd data) : (p.step b e).vdmSlot = p.vdmSlot := by
  refine p.vdmSlot_of_does (p.does_call b he) ?_
  cases e with
  | sendVdm vid cmd data => exact absurd rfl (hsend vid cmd data)
  | _ => simp [Event.writes]

/-- The type bit that `pd_send_vdm` gives to a VDM. -/
def vdmType (vid cmd : Word) : Bool :=
  if vid &&& usbSidPd = usbSidPd then true else decide (pdVdoCmd cmd ≤ 6)

theorem vdmSlot_pdSendVdm (vid cmd : Word) (data : List Word) :
    (p.pdSendVdm vid cmd data).vdmSlot =
      if 6 < data.length then p.vdmSlot
      else p.vdmSlot.queue (vdo vid (vdmType vid cmd) cmd) data := by
  unfold pdSendVdm vdmType
  simp only
  generalize vdo vid _ cmd = header
  split <;> rfl

end Port

end UsbPd
