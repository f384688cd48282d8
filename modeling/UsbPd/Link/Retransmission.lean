import UsbPd.Control.Rest
import UsbPd.Frame.Alike
import UsbPd.Frame.Step
import UsbPd.Link.Collision
import UsbPd.Sink.Wait

/-!
# Messages that are delivered twice

Nothing compares the MessageID of a received message with that of the message
before it, so a retransmission is handled like a new message. It is harmless
where the state left by the first delivery ignores the message.
-/

namespace UsbPd

/-- What a retransmission must not change: the state and its timer, the roles, the
flags and the contract. -/
structure Standing where
  taskState : PdState
  timeoutState : PdState
  armed : Bool
  powerRole : PowerRole
  dataRole : DataRole
  flags : PdFlags
  requestedIdx : Nat
  currLimit : Nat
  supplyVoltage : Nat
  deriving DecidableEq

namespace Port

def standing (p : Port) : Standing where
  taskState := p.pd.taskState
  timeoutState := p.pd.timeoutState
  armed := p.pd.timeout ≠ 0
  powerRole := p.pd.powerRole
  dataRole := p.pd.dataRole
  flags := p.pd.flags
  requestedIdx := p.pd.requestedIdx
  currLimit := p.pd.currLimit
  supplyVoltage := p.pd.supplyVoltage

/-- The port is in `s` without a timer. -/
def restsIn (p : Port) (s : PdState) : Bool :=
  p.pd.taskState = s ∧ p.pd.timeout = 0 ∧ p.pd.timeoutState = .disabled

/-- The flags say what the partner's object says. -/
def knowsPartner (p : Port) (pdo : Word) : Bool :=
  pdoType pdo ≠ .fixed ∨ (p.pd.flags.partnerDrPower = pdoFixedDualRole pdo ∧
    p.pd.flags.partnerDrData = pdoFixedDataSwap pdo ∧
    p.pd.flags.partnerExtpower = pdoFixedExternal pdo ∧
    p.pd.flags.partnerUsbComm = pdoFixedCommCap pdo)

/-- The port has taken these capabilities before and planned the Request for one of them,
which does not go out. -/
def keepsCaps (p : Port) (payload : List Word) : Bool :=
  p.pd.txStatus ≠ .success ∧ p.pd.newPowerRequest = false ∧ p.pd.flags.previousPdConn = true ∧
    p.knowsPartner (firstObject payload) ∧
    payload ++ p.st.srcCaps.drop payload.length = p.st.srcCaps ∧
    p.st.srcCapCnt = payload.length ∧ p.st.sourceCapMaxIndex = payload.length - 1 ∧
    (p.pd.currLimit, p.pd.supplyVoltage) =
      pdExtractPdoPower (p.st.srcCap p.st.sourceCapCurrentIndex) ∧
    p.pd.prevRequestMv = p.pd.supplyVoltage

/-- The port reacts to a data message. A Request is refused in every state, and the
refusal leads to `PD_STATE_SRC_READY`. -/
def reactsToData (b : Board) (p : Port) (m : PdMsg) : Option DataMsgType → Bool
  | some .sourceCap => p.takesCaps ∧ ¬ p.keepsCaps m.payload
  | some .request =>
    if p.pd.powerRole = .source ∧ m.acceptable b then
      p.pd.txStatus = .success ∧ ¬ (p.restsIn .srcAccepted ∧ p.pd.flags.explicitContract = true ∧
        p.pd.requestedIdx = rdoPos (firstObject m.payload))
    else p.pd.taskState ≠ .srcReady
  | some .bist => p.pd.taskState = p.readyReturnState ∧ bistCarrierMode2 (firstObject m.payload)
  | some .vendorDef => p.pd.vdmState = .busy
  | _ => false

/-- The states of a sink or of a swap in which a PS_RDY changes the state. -/
def takesPsRdy (p : Port) : Bool :=
  p.pd.taskState = .snkSwapSrcDisable ∨ p.pd.taskState = .srcSwapStandby ∨
    p.pd.taskState = .snkDiscovery ∨
    (p.pd.powerRole = .sink ∧ p.pd.taskState ≠ .snkReady ∧ p.pd.taskState ≠ .snkSwapStandby)

/-- The states that wait for Accept, Reject or Wait. -/
def awaitsAnswer (p : Port) : Bool :=
  p.pd.taskState = .drSwap ∨ p.pd.taskState = .srcSwapInit ∨ p.pd.taskState = .snkSwapInit ∨
    p.pd.taskState = .snkRequested

/-- The port reacts to a control message. -/
def reactsToCtrl (p : Port) : Option CtrlMsgType → Bool
  | some .getSourceCap => p.pd.taskState = .srcDiscovery ∧ p.pd.txStatus = .success
  | some .psRdy => p.takesPsRdy
  | some .reject | some .wait => p.awaitsAnswer
  | some .accept => p.awaitsAnswer ∨ p.pd.taskState = .softReset
  | some .softReset =>
    ¬ (p.restsIn (p.dualRoleIfElse .snkDiscovery .srcDiscovery) ∧ p.pd.msgId = 0)
  | _ => false

/-- A connected port changes its state, its timer, its contract or its VDM in
reaction to `m`. -/
def reacts (b : Board) (p : Port) (m : PdMsg) : Bool :=
  p.pdIsConnected &&
    if headerCnt m.head ≠ 0 then p.reactsToData b m (DataMsgType.ofField (headerType m.head))
    else p.reactsToCtrl (CtrlMsgType.ofField (headerType m.head))

/-- A Wait that restarts the timer of an earlier one, and the timer runs out in the iteration
either way or neither way; or the switch arms another timer in any case. -/
def waitsOn (p : Port) (inp : Input) : Bool :=
  p.takesWait ∧ (p.entering ∨ (p.pd.timeoutState = .snkReady ∧ p.pd.timeout ≠ 0 ∧
    (p.pd.timeout ≤ inp.time .tail ↔ inp.time .message + pdTSinkRequest ≤ inp.time .tail)))

/-- A READY state with nothing to do but a ping, whether a VDM is in flight or not. -/
def idles (p : Port) : Bool :=
  p.roleCheckDue = false ∧ p.identityPending = false ∧
    ((p.pd.taskState = .snkReady ∧ p.pd.newPowerRequest = false) ∨
      (p.pd.taskState = .srcReady ∧ p.pd.flags.updateSrcCaps = false ∧
        p.pd.flags.snkCapRecvd = true ∧
        (p.pd.flags.pingEnabled = false ∨ p.pd.txStatus = .success)))

/-- A further delivery of `m` makes no difference in this iteration. -/
def ignores (b : Board) (p : Port) (inp : Input) (m : PdMsg) : Bool :=
  !p.reacts b m || (m.isCtrl .wait && p.waitsOn inp) || (m.isData .vendorDef && p.idles)

/-- What the first delivery of Sink_Capabilities leaves. -/
structure KnowsSink (p : Port) (m : PdMsg) : Prop where
  received : p.pd.flags.snkCapRecvd = true
  partner : pdoType (firstObject m.payload) = .fixed → p.part .partner =
    (pdoFixedDualRole (firstObject m.payload), pdoFixedDataSwap (firstObject m.payload),
      pdoFixedExternal (firstObject m.payload), pdoFixedCommCap (firstObject m.payload))
  task : p.pd.taskState ≠ .srcGetSinkCap

end Port

namespace Port

variable {b : Board} {p q : Port} {m : PdMsg}

/-- A state without a timer that is entered again stays as it is. -/
theorem alike_setState_rests {s : PdState} (h : p.restsIn s = true) : Alike p (p.setState s) := by
  obtain ⟨htask, htimeout, htimer⟩ := of_decide_eq_true h
  have heq : p.setState s = p := by
    unfold setState
    simp only [htask, if_true]
    rw [← htask]
    change { p with pd := { p.pd with timeout := 0, timeoutState := .disabled } } = p
    rw [← htimeout, ← htimer]
  rw [heq]
  exact .refl p

/-- A READY state has no timer. -/
theorem Rests.restsIn (hrests : p.control.Rests) {s : PdState} (hs : s = .snkReady ∨ s = .srcReady)
    (htask : p.pd.taskState = s) : p.restsIn s = true := by
  obtain ⟨htimeout, htimer⟩ : p.pd.timeout = 0 ∧ p.pd.timeoutState = .disabled := by
    have hready := hrests.ready (by simpa [htask] using hs)
    simpa [control] using hready
  exact decide_eq_true ⟨htask, htimeout, htimer⟩

/-! Capabilities that are known, and a Request that has been accepted. -/

theorem pdUpdatePdoFlags_known {pdo : Word} (h : p.knowsPartner pdo = true) :
    p.pdUpdatePdoFlags pdo = p := by
  unfold pdUpdatePdoFlags
  split_ifs with hfixed
  · rfl
  · obtain hother | ⟨hpower, hdata, hextern, hcomm⟩ := of_decide_eq_true h
    · exact absurd hother hfixed
    · rw [← hpower, ← hdata, ← hextern, ← hcomm]
      rfl

/-- What a Request that does not go out leaves. -/
theorem pdSendRequestMsg_fails (htx : p.pd.txStatus ≠ .success) :
    (p.pdSendRequestMsg true).2.pd = { p.pd with
        newPowerRequest := false
        currLimit := (pdExtractPdoPower (p.st.srcCap p.st.sourceCapCurrentIndex)).1
        supplyVoltage := (pdExtractPdoPower (p.st.srcCap p.st.sourceCapCurrentIndex)).2
        prevRequestMv := (pdExtractPdoPower (p.st.srcCap p.st.sourceCapCurrentIndex)).2 } ∧
      (p.pdSendRequestMsg true).2.st = p.st ∧
      p.chip.Alike (p.pdSendRequestMsg true).2.chip := by
  have hfails : ∀ ma mv rdo,
      ((p.clearNewPowerRequest.setRequestedPower ma mv).sendRequest rdo).1 < 0 := by
    intro ma mv rdo
    change (if p.pd.txStatus = .success then (1 : Int) else -1) < 0
    rw [if_neg htx]
    decide
  have hsent : ∀ ma mv rdo, Alike (p.clearNewPowerRequest.setRequestedPower ma mv)
      ((p.clearNewPowerRequest.setRequestedPower ma mv).sendRequest rdo).2 :=
    fun _ _ _ => .transmitted _ _ _ _
  rw [pdSendRequestMsg_eq]
  unfold sendBuiltRequest
  simp only [Bool.true_eq_false, false_and, if_false]
  rw [if_pos (hfails _ _ _)]
  refine ⟨?_, rfl, (hsent _ _ _).chip⟩
  simp [requestObject]

/-- A Request that is planned already and does not go out. -/
theorem alike_pdSendRequestMsg (htx : p.pd.txStatus ≠ .success)
    (hcalm : p.pd.newPowerRequest = false)
    (hpower : (p.pd.currLimit, p.pd.supplyVoltage) =
      pdExtractPdoPower (p.st.srcCap p.st.sourceCapCurrentIndex))
    (hprev : p.pd.prevRequestMv = p.pd.supplyVoltage) : Alike p (p.pdSendRequestMsg true).2 := by
  obtain ⟨hpd, hst, hchip⟩ := pdSendRequestMsg_fails htx
  refine ⟨?_, hst, hchip⟩
  rw [hpd, ← hpower]
  clear hpd hst hchip hpower
  generalize p.pd = pd at hcalm hprev
  cases pd
  simp only at hcalm hprev
  subst hcalm hprev
  rfl

theorem alike_handleSourceCap {payload : List Word}
    (h : p.takesCaps = true → p.keepsCaps payload = true) :
    Alike p (p.handleSourceCap payload) := by
  unfold handleSourceCap
  by_cases htakes : p.takesCaps = true
  · obtain ⟨htx, hcalm, hflag, hpartner, hcaps, hcnt, hmax, hpower, hprev⟩ :=
      of_decide_eq_true (h htakes)
    have hset : p.setFlags { p.pd.flags with previousPdConn := true } = p := by
      rw [← hflag]
      rfl
    have hstored : Alike p (p.pdProcessSourceCap payload) := by
      refine ⟨rfl, ?_, .refl _⟩
      change { p.st with
        srcCapCnt := payload.length
        srcCaps := payload ++ p.st.srcCaps.drop payload.length } = p.st
      rw [hcaps, ← hcnt]
    have hsent := (alike_pdSendRequestMsg htx hcalm hpower hprev).trans
      (hstored.pdSendRequestMsg true).2
    rw [if_pos (of_decide_eq_true htakes)]
    simp only [hset, pdUpdatePdoFlags_known hpartner]
    refine ⟨hsent.pd, ?_, hsent.chip⟩
    change { ((p.pdProcessSourceCap payload).pdSendRequestMsg true).2.st with
      sourceCapMaxIndex := payload.length - 1 } = p.st
    rw [hsent.st, ← hmax]
  · rw [if_neg (of_decide_eq_false (eq_false_of_ne_true htakes))]
    exact .refl p

theorem handleRequestMsg_eq (b : Board) (p : Port) (m : PdMsg) :
    p.handleRequestMsg b m.payload =
      if p.pd.powerRole = .source ∧ m.acceptable b = true then
        p.acceptRequest (firstObject m.payload)
      else (p.sendControl .reject).2.setState .srcReady := by
  have hgrant : (p.pd.powerRole = .source ∧ m.payload.length = 1 ∧
      pdCheckRequestedVoltage b (firstObject m.payload) = .success) ↔
      (p.pd.powerRole = .source ∧ m.acceptable b = true) := by
    simp [PdMsg.acceptable]
  exact if_congr hgrant rfl rfl

/-- An Accept that is reported as sent. -/
theorem acceptRequest_sent (htx : p.pd.txStatus = .success) (rdo : Word) :
    p.acceptRequest rdo =
      ((((p.sendControl .accept).2.record .contractAgreed).setFlags { p.pd.flags with
        explicitContract := true }).modifyPd fun pd =>
          { pd with requestedIdx := rdoPos rdo }).setState .srcAccepted := by
  have hsent : ¬ (p.sendControl .accept).1 < 0 := by
    rw [sendControl_neg]
    simpa [control] using htx
  exact if_neg hsent

theorem alike_handleRequestMsg (hrests : p.control.Rests)
    (h : p.reactsToData b m (some .request) = false) :
    Alike p (p.handleRequestMsg b m.payload) := by
  rw [handleRequestMsg_eq]
  simp only [reactsToData] at h
  split_ifs at h ⊢ with hcase
  · by_cases htx : p.pd.txStatus = .success
    · -- the port is in the state that the Accept leads to
      have hagain : p.restsIn .srcAccepted = true ∧ p.pd.flags.explicitContract = true ∧
          p.pd.requestedIdx = rdoPos (firstObject m.payload) := by
        simpa [htx] using h
      obtain ⟨hrest, hcontract, hidx⟩ := hagain
      have hsame : Alike p ((((p.sendControl .accept).2.record .contractAgreed).setFlags
          { p.pd.flags with explicitContract := true }).modifyPd fun pd =>
            { pd with requestedIdx := rdoPos (firstObject m.payload) }) := by
        have haccept : Alike p (p.sendControl .accept).2 := .transmitted p _ _ _
        refine ⟨?_, rfl, haccept.chip⟩
        change { p.pd with flags := { p.pd.flags with explicitContract := true },
                           requestedIdx := rdoPos (firstObject m.payload) } = p.pd
        rw [← hcontract, ← hidx]
      rw [acceptRequest_sent htx]
      exact (alike_setState_rests hrest).trans (hsame.setState _)
    · -- the Accept is not sent
      have hsent : (p.sendControl .accept).1 < 0 := by
        rw [sendControl_neg]
        simpa [control] using htx
      unfold acceptRequest
      simp only
      rw [if_pos hsent]
      exact .transmitted p _ _ _
  · have htask : p.pd.taskState = .srcReady := by simpa using h
    have hsent : Alike p (p.sendControl .reject).2 := .transmitted p _ _ _
    exact (alike_setState_rests (Rests.restsIn hrests (.inr rfl) htask)).trans (hsent.setState _)

theorem KnowsSink.knowsPartner (h : p.KnowsSink m) :
    p.knowsPartner (firstObject m.payload) = true := by
  by_cases hfixed : pdoType (firstObject m.payload) = .fixed
  · have hpartner := h.partner hfixed
    change (p.pd.flags.partnerDrPower, p.pd.flags.partnerDrData, p.pd.flags.partnerExtpower,
      p.pd.flags.partnerUsbComm) = _ at hpartner
    exact decide_eq_true (.inr (by simpa using hpartner))
  · exact decide_eq_true (.inl hfixed)

theorem KnowsSink.handleSinkCap (h : p.KnowsSink m) : p.handleSinkCap m.payload = p := by
  have hflags : p.setFlags { p.pd.flags with snkCapRecvd := true } = p := by
    rw [← h.received]
    rfl
  unfold Port.handleSinkCap
  simp only
  rw [hflags, pdUpdatePdoFlags_known h.knowsPartner, if_neg h.task]

theorem alike_handlePsRdy (hrests : p.control.Rests) (h : p.takesPsRdy = false) :
    Alike p p.handlePsRdy := by
  simp only [takesPsRdy, decide_eq_false_iff_not, not_or] at h
  obtain ⟨hsource, hstandby, hdiscovery, hready⟩ := h
  unfold Port.handlePsRdy
  rw [if_neg hsource, if_neg hstandby, if_neg hdiscovery]
  split_ifs with hswap hsink
  · exact .refl p
  · have htask : p.pd.taskState = .snkReady := by
      by_contra hne
      exact hready ⟨hsink, hne, hswap⟩
    have hstays := alike_setState_rests (Rests.restsIn hrests (.inl rfl) htask)
    exact hstays.trans ⟨rfl, rfl, .refl _⟩
  · exact .refl p

/-- A second Soft_Reset finds the state that the first one leads to. -/
theorem alike_handleSoftReset
    (h : p.restsIn (p.dualRoleIfElse .snkDiscovery .srcDiscovery) = true ∧ p.pd.msgId = 0) :
    Alike p p.handleSoftReset := by
  have hreset : Alike p p.resetMsgId := by
    refine ⟨?_, rfl, .refl _⟩
    change { p.pd with msgId := 0 } = p.pd
    rw [← h.2]
  have hstays := (alike_setState_rests h.1).trans (hreset.setState _)
  exact hstays.trans (.transmitted _ _ _ _)

theorem handleRejectWait_eq (h : p.awaitsAnswer = false) (now : Nat) (wait : Bool) :
    p.handleRejectWait now wait = p := by
  simp only [awaitsAnswer, decide_eq_false_iff_not, not_or] at h
  unfold handleRejectWait
  rw [if_neg h.1, if_neg h.2.1, if_neg h.2.2.1, if_neg h.2.2.2]

theorem handleAccept_eq (h : p.awaitsAnswer = false) (hsoft : p.pd.taskState ≠ .softReset) :
    p.handleAccept = p := by
  simp only [awaitsAnswer, decide_eq_false_iff_not, not_or] at h
  unfold handleAccept
  rw [if_neg hsoft, if_neg h.1, if_neg h.2.1, if_neg h.2.2.1, if_neg h.2.2.2]

theorem alike_handleDataRequest (hrests : p.control.Rests)
    (hsink : DataMsgType.ofField (headerType m.head) = some .sinkCap → p.KnowsSink m) (now : Nat)
    (h : p.reactsToData b m (DataMsgType.ofField (headerType m.head)) = false) :
    Alike p (p.handleDataRequest b now m) := by
  unfold handleDataRequest
  cases htype : DataMsgType.ofField (headerType m.head) with
  | none => exact .refl p
  | some type =>
      rw [htype] at h hsink
      cases type with
      | sourceCap => exact alike_handleSourceCap (by simpa [reactsToData] using h)
      | request => exact alike_handleRequestMsg hrests h
      | bist =>
          simp only [reactsToData, decide_eq_false_iff_not] at h
          simp only [handleBist]
          rw [if_neg h]
          exact .refl p
      | sinkCap =>
          simp only
          rw [(hsink rfl).handleSinkCap]
          exact .refl p
      | vendorDef =>
          simp only [reactsToData, decide_eq_false_iff_not] at h
          simp only [handleVdmRequest, h, false_and, if_false, pdSvdm, pdCustomVdm, ite_self]
          exact .refl p

theorem alike_handleCtrlRequest (hrests : p.control.Rests) (now : Nat)
    (h : p.reactsToCtrl (CtrlMsgType.ofField (headerType m.head)) = false) :
    Alike p (p.handleCtrlRequest b now m) := by
  have hsent : ∀ type, Alike p (p.sendControl type).2 := fun _ => .transmitted p _ _ _
  unfold handleCtrlRequest
  cases htype : CtrlMsgType.ofField (headerType m.head) with
  | none => exact .refl p
  | some type =>
      rw [htype] at h
      cases type with
      | getSourceCap =>
          have hcaps : Alike p (p.sendSourceCap b).2 := by
            unfold sendSourceCap
            split
            · exact .transmitted p _ _ _
            · exact .transmitted p _ _ _
          have hstays : ¬ (0 ≤ (p.sendSourceCap b).1 ∧
              (p.sendSourceCap b).2.pd.taskState = .srcDiscovery) := by
            rw [sendSourceCap_nonneg, sendSourceCap_pd]
            simpa [reactsToCtrl, control, and_comm] using h
          simp only [handleGetSourceCap]
          rw [if_neg hstays]
          exact hcaps
      | getSinkCap => exact .transmitted p _ _ _
      | psRdy => exact alike_handlePsRdy hrests h
      | reject | wait =>
          simp only
          rw [handleRejectWait_eq h]
          exact .refl p
      | accept =>
          simp only [reactsToCtrl, decide_eq_false_iff_not, not_or] at h
          simp only
          rw [handleAccept_eq (by simpa using h.1) h.2]
          exact .refl p
      | softReset => exact alike_handleSoftReset (by simpa [reactsToCtrl] using h)
      | prSwap => exact hsent .reject
      | drSwap => exact hsent .reject
      | vconnSwap => exact hsent .reject
      | goodCrc | ping | gotoMin => exact .refl p

/-- A message that the port does not react to leaves it alike. -/
theorem alike_handleRequest (hrests : p.control.Rests)
    (hsink : m.isData .sinkCap = true → p.pdIsConnected = true → p.KnowsSink m) (now : Nat)
    (h : p.reacts b m = false) : Alike p (p.handleRequest b now m) := by
  unfold handleRequest
  by_cases hconn : p.pdIsConnected = true
  · rw [if_neg (not_not.2 hconn)]
    simp only [reacts, hconn, Bool.true_and] at h
    by_cases hcnt : headerCnt m.head ≠ 0
    · rw [if_pos hcnt] at h ⊢
      exact alike_handleDataRequest hrests
        (fun htype => hsink (by simp [PdMsg.isData, hcnt, htype]) hconn) now h
    · rw [if_neg hcnt] at h ⊢
      exact alike_handleCtrlRequest hrests now h
  · rw [if_pos hconn]
    exact .refl p

/-! What the first delivery of Sink_Capabilities leaves stays until the second. -/

namespace KnowsSink

theorem of_does {W : List Part} {K : List CallKind} (h : p.KnowsSink m) (hdoes : Does W K p q)
    (hW : Part.snkCapRecvd ∉ W ∧ Part.partner ∉ W) (htask : q.pd.taskState ≠ .srcGetSinkCap) :
    q.KnowsSink m where
  received := (hdoes.keeps .snkCapRecvd hW.1).trans h.received
  partner := fun hfixed => (hdoes.keeps .partner hW.2).trans (h.partner hfixed)
  task := htask

/-- A connected port handles Sink_Capabilities. -/
theorem handled (hconn : p.pdIsConnected = true) (hm : m.isData .sinkCap = true) (now : Nat) :
    (p.handleRequest b now m).KnowsSink m := by
  obtain ⟨hcnt, htype⟩ : headerCnt m.head ≠ 0 ∧
      DataMsgType.ofField (headerType m.head) = some .sinkCap := by
    simpa [PdMsg.isData] using hm
  have hmarked : ∀ r : Port, r.pd.flags.snkCapRecvd = true →
      (r.pdUpdatePdoFlags (firstObject m.payload)).pd.flags.snkCapRecvd = true := by
    intro r hr
    unfold pdUpdatePdoFlags
    split_ifs
    · exact hr
    · exact hr
  have hpartner : ∀ r : Port, pdoType (firstObject m.payload) = .fixed →
      (r.pdUpdatePdoFlags (firstObject m.payload)).part .partner =
        (pdoFixedDualRole (firstObject m.payload), pdoFixedDataSwap (firstObject m.payload),
          pdoFixedExternal (firstObject m.payload), pdoFixedCommCap (firstObject m.payload)) := by
    intro r hfixed
    unfold pdUpdatePdoFlags
    rw [if_neg (not_not.2 hfixed)]
    rfl
  unfold handleRequest
  rw [if_neg (not_not.2 hconn), if_pos hcnt]
  simp only [handleDataRequest, htype, Port.handleSinkCap]
  generalize hr : (p.setFlags { p.pd.flags with snkCapRecvd := true }) = r
  have hset : r.pd.flags.snkCapRecvd = true := by
    rw [← hr]
    rfl
  split_ifs with htask
  · refine ⟨by simpa using hmarked r hset, fun hfixed => ?_, by simp⟩
    rw [← hpartner r hfixed]
    exact (does_setState _ .srcReady).keeps .partner (by decide)
  · exact ⟨hmarked r hset, hpartner r, htask⟩

theorem applySuspend (h : p.KnowsSink m) : p.applySuspend.KnowsSink m := by
  refine h.of_does p.does_applySuspend (by decide) ?_
  unfold Port.applySuspend
  split_ifs
  · simp
  · exact h.task

theorem moves_getSinkCap : ∀ s, s ≠ .srcReady → .srcGetSinkCap ∉ Control.moves s := by
  intro s
  cases s <;> decide

/-- Apart from `PD_STATE_SRC_READY` no state leads to `PD_STATE_SRC_GET_SINK_CAP`. -/
theorem outcome_task {v w : Control} (hw : Control.Outcome v w)
    (htask : v.task ≠ .srcGetSinkCap) (hready : v.task ≠ .srcReady) : w.task ≠ .srcGetSinkCap := by
  cases hw with
  | moves hs =>
      rw [Control.setState_task]
      rintro rfl
      exact moves_getSinkCap _ hready hs
  | executesReset =>
      rw [Control.executeHardReset_eq]
      simp only [PowerRole.ifElse]
      split <;> simp
  | stays | arms | requests | drivesVbus | cutsVbus | becomesSink | sentReset | failsReset
  | sendsReset => exact htask
  | _ => simp [Control.attachSink, Control.attachSource]

/-- `PD_STATE_SRC_READY` does not ask again. -/
theorem srcReady_task (h : p.pd.flags.snkCapRecvd = true) (htask : p.pd.taskState = .srcReady) :
    (p.srcReady b).pd.taskState ≠ .srcGetSinkCap := by
  have hping : p.srcPing.pd.taskState ≠ .srcGetSinkCap := by
    unfold srcPing
    simp only
    split_ifs <;> simp [htask]
  unfold srcReady
  simp only [h, not_true_eq_false, false_and, if_false, if_true]
  split_ifs
  · simp [htask]
  · simp
  · simp [htask]
  · cases hchecks : p.readyChecks with
    | none => exact hping
    | some r =>
        have hkept := (p.does_readyChecks hchecks).keeps .task (by decide)
        change r.pd.taskState = p.pd.taskState at hkept
        simp [hkept, htask]

theorem runState (h : p.KnowsSink m) (inp : Input) : (p.runState b inp).KnowsSink m := by
  have hwrites : ∀ s, Part.snkCapRecvd ∉ stateWrites s ∧ Part.partner ∉ stateWrites s := by
    intro s
    cases s <;> decide
  refine h.of_does (p.does_runState b inp) (hwrites _) ?_
  by_cases hready : p.pd.taskState = .srcReady
  · unfold Port.runState
    rw [hready]
    exact srcReady_task h.received hready
  · exact outcome_task (p.control.runState_outcome _ (p.control_runState_mem b inp)) h.task hready

theorem finish (h : p.KnowsSink m) (hrests : p.control.Rests) (thisState : PdState) (inp : Input) :
    (p.finish thisState inp).KnowsSink m := by
  refine h.of_does (p.does_finish thisState inp) (by decide) ?_
  rcases p.task_finish thisState inp with hsame | htimer | hdetach
  · rw [hsame]
    exact h.task
  · rw [htimer]
    intro hs
    refine hrests.timeoutState ?_
    rw [show p.control.timeoutState = .srcGetSinkCap from hs]
    decide
  · simp [hdetach]

theorem beforeMessage (h : p.KnowsSink m) (inp : Input) : (p.beforeMessage inp).KnowsSink m := by
  refine h.of_does (p.does_beforeMessage inp) (by decide) ?_
  have htask : (p.beforeMessage inp).pd.taskState = (p.control.applyReset inp.reset).task :=
    congrArg Control.task (p.control_beforeMessage inp)
  rw [htask]
  cases inp.reset with
  | false => exact h.task
  | true => simp [Control.applyReset]

end KnowsSink

/-- The whole first iteration, up to where the second delivery finds the port. -/
theorem KnowsSink.redelivered (hrests : p.control.Rests) (hconn : p.pdIsConnected = true)
    {inp₁ : Input} (inp₂ : Input) (hmessage : inp₁.message = some m)
    (hm : m.isData .sinkCap = true) :
    (((p.step b (.iterate inp₁)).beforeMessage inp₂).record (.received m)).KnowsSink m := by
  have hbefore : (p.beforeMessage inp₁).pdIsConnected = true := by
    rw [← control_connected, control_beforeMessage]
    cases inp₁.reset with
    | false => simpa [Control.applyReset] using hconn
    | true => exact Control.connected_of_resetting _ (s := .softReset) rfl (by decide)
  have hreceived : ((p.beforeMessage inp₁).receive b inp₁).KnowsSink m := by
    unfold receive
    rw [hmessage]
    exact KnowsSink.handled (p := (p.beforeMessage inp₁).record (.received m)) hbefore hm _
  have hrested : ((p.beforeSwitch b inp₁).runState b inp₁).control.Rests :=
    rests_runState (rests_beforeSwitch hrests b inp₁) b inp₁
  have hfinished : (p.step b (.iterate inp₁)).KnowsSink m :=
    (hreceived.applySuspend.runState inp₁).finish hrested _ inp₁
  have hfound := hfinished.beforeMessage inp₂
  exact ⟨hfound.received, hfound.partner, hfound.task⟩

theorem Alike.standing_eq (h : Alike p q) : q.standing = p.standing := by
  unfold standing
  rw [h.pd]

/-- The iteration behind the message, for ports that are alike. -/
theorem Alike.resumed (h : Alike p q) (inp : Input) :
    Alike ((p.runState b inp).finish p.pd.taskState inp)
      ((q.runState b inp).finish q.pd.taskState inp) := by
  rw [h.pd]
  exact (h.runState b inp).finish _ inp

/-! A Wait or the answer to a VDM that comes twice. -/

/-- `q` is `p` with another deadline, another pending Request and another VDM in flight. -/
structure Restarted (p q : Port) : Prop where
  pd : ∃ x : PdProtocol, (x.timeout = 0 ↔ p.pd.timeout = 0) ∧ q.pd = { p.pd with
    newPowerRequest := x.newPowerRequest, prevRequestMv := x.prevRequestMv, timeout := x.timeout
    vdmState := x.vdmState, vdmTimeout := x.vdmTimeout, vdoRetry := x.vdoRetry }
  st : q.st = p.st
  chip : p.chip.Alike q.chip

theorem chip_setState_alike (p : Port) (s : PdState) : p.chip.Alike (p.setState s).chip := by
  have hdisabled : ∀ r : Port, r.chip.Alike r.enterDisconnected.chip := by
    intro r
    unfold enterDisconnected tcpmSetRxEnable
    simp only
    split_ifs <;> exact .setRxEnable r.chip false
  unfold setState
  simp only
  split_ifs
  · exact .refl _
  · exact .refl _
  · exact hdisabled ((p.setStateTimeout 0 .disabled).setTask s)
  · exact .refl _

namespace Restarted

theorem standing_eq (h : Restarted p q) : q.standing = p.standing := by
  obtain ⟨x, harmed, hpd⟩ := h.pd
  unfold standing
  rw [hpd]
  simp [harmed]

theorem record (h : Restarted p q) (c d : Call) : Restarted (p.record c) (q.record d) :=
  ⟨h.pd, h.st, h.chip⟩

theorem modifySt (h : Restarted p q) (f : Statics → Statics) :
    Restarted (p.modifySt f) (q.modifySt f) :=
  ⟨h.pd, congrArg f h.st, h.chip⟩

theorem setLast (h : Restarted p q) (s : PdState) : Restarted (p.setLast s) (q.setLast s) := by
  obtain ⟨x, harmed, hpd⟩ := h.pd
  refine ⟨⟨x, harmed, ?_⟩, h.st, h.chip⟩
  simp [hpd]

theorem setStateTimeout (h : Restarted p q) (timeout : Nat) (s : PdState) :
    Restarted (p.setStateTimeout timeout s) (q.setStateTimeout timeout s) := by
  obtain ⟨x, -, hpd⟩ := h.pd
  refine ⟨⟨{ x with timeout := timeout }, Iff.rfl, ?_⟩, h.st, h.chip⟩
  simp [hpd]

theorem setState (h : Restarted p q) (s : PdState) : Restarted (p.setState s) (q.setState s) := by
  obtain ⟨x, -, hpd⟩ := h.pd
  refine ⟨⟨{ x with timeout := 0 }, by simp, ?_⟩, by simp [h.st], ?_⟩
  · simp [hpd]
  · exact ((chip_setState_alike p s).symm.trans h.chip).trans (chip_setState_alike q s)

/-- The timer runs out for both or for neither. -/
theorem checkTimeout (h : Restarted p q) {now : Nat}
    (htime : q.pd.timeout ≤ now ↔ p.pd.timeout ≤ now) :
    Restarted (p.checkTimeout now) (q.checkTimeout now) := by
  obtain ⟨x, harmed, hpd⟩ := h.pd
  have hzero : q.pd.timeout = 0 ↔ p.pd.timeout = 0 := by
    rw [hpd]
    exact harmed
  have hstate : q.pd.timeoutState = p.pd.timeoutState := by rw [hpd]
  unfold Port.checkTimeout
  rw [hstate, if_congr (and_congr (not_congr hzero) htime) rfl rfl]
  split_ifs
  · exact h.setState _
  · exact h

theorem tcpmGetCc (h : Restarted p q) (r : CcReading) :
    Restarted (p.tcpmGetCc r) (q.tcpmGetCc r) := by
  have hmeasured : Alike ⟨p.pd, p.st, p.chip, p.log⟩ ⟨p.pd, q.st, q.chip, q.log⟩ :=
    ⟨rfl, h.st, h.chip⟩
  have hread := hmeasured.tcpmGetCc r
  exact ⟨h.pd, hread.st, hread.chip⟩

theorem checkSourceDetach (h : Restarted p q) (inp : Input) :
    Restarted (p.checkSourceDetach inp) (q.checkSourceDetach inp) := by
  obtain ⟨x, -, hpd⟩ := h.pd
  have hm := h.tcpmGetCc inp.ccTail
  have hdetach : ∀ p' q' : Port, Restarted p' q' → Restarted
      (if p'.st.cc1 = .open then (p'.record .detach).setState .srcDisconnected else p')
      (if q'.st.cc1 = .open then (q'.record .detach).setState .srcDisconnected else q') := by
    intro p' q' h'
    rw [h'.st]
    split_ifs
    · exact (h'.record _ _).setState _
    · exact h'
  have hrole : q.pd.powerRole = p.pd.powerRole := by rw [hpd]
  have hpolarity : (q.tcpmGetCc inp.ccTail).pd.polarity = (p.tcpmGetCc inp.ccTail).pd.polarity := by
    change q.pd.polarity = p.pd.polarity
    rw [hpd]
  unfold Port.checkSourceDetach
  simp only [pdTrySrcEnable, Bool.false_eq_true, if_false]
  rw [hrole, hpolarity]
  by_cases hsource : p.pd.powerRole = .source
  · rw [if_pos hsource, if_pos hsource]
    refine hdetach _ _ ?_
    split_ifs
    · exact hm.modifySt _
    · exact hm
  · rw [if_neg hsource, if_neg hsource]
    exact h

/-- The tail of the iteration. -/
theorem finish (h : Restarted p q) (s : PdState) {inp : Input}
    (htime : q.pd.timeout ≤ inp.time .tail ↔ p.pd.timeout ≤ inp.time .tail) :
    Restarted (p.finish s inp) (q.finish s inp) := by
  have hchecked := (h.setLast s).checkTimeout htime
  obtain ⟨x, -, hpd⟩ := hchecked.pd
  unfold Port.finish pdIsConnected pdIsPowerSwapping dualRoleIfElse
  simp only [checkSinkDetach_eq]
  rw [hpd]
  simp only
  split_ifs
  · exact hchecked
  · exact hchecked.checkSourceDetach inp
  · exact hchecked
  · exact hchecked.checkSourceDetach inp

end Restarted

/-- A second Wait that does not change when the timer runs out. -/
theorem standing_postpone {r : Port} (b : Board) {inp : Input} (h : r.waitsOn inp = true)
    (c : Call) :
    let q := (r.record c).postpone (inp.time .message)
    ((q.runState b inp).finish q.pd.taskState inp).standing =
      ((r.runState b inp).finish r.pd.taskState inp).standing := by
  obtain ⟨htakes, htimer⟩ := of_decide_eq_true h
  obtain ⟨htask, -⟩ := of_decide_eq_true htakes
  intro q
  have hrun : ∀ x : Port, x.pd.taskState = .snkRequested →
      x.runState b inp = x.snkRequested inp := by
    intro x hx
    unfold runState
    rw [hx]
  have hq : q.pd.taskState = .snkRequested := htask
  have hentering : q.entering = r.entering := rfl
  rw [hrun q hq, hrun r htask, hq, htask]
  unfold snkRequested
  rw [hentering]
  split_ifs with henters
  · have hrestarted : ∀ timeout s, Restarted
        ((r.modifySt fun st => { st with hardResetCount := 0 }).setStateTimeout timeout s)
        ((q.modifySt fun st => { st with hardResetCount := 0 }).setStateTimeout timeout s) :=
      fun timeout s => ⟨⟨{ q.pd with timeout := timeout }, Iff.rfl, rfl⟩, rfl, .refl _⟩
    generalize inp.time .switch + pdTSenderResponse = timeout
    exact ((hrestarted timeout .hardResetSend).finish .snkRequested Iff.rfl).standing_eq
  · obtain ⟨hstate, hset, htime⟩ := htimer.resolve_left henters
    have hlater : inp.time .message + pdTSinkRequest ≠ 0 :=
      Nat.ne_of_gt (Nat.add_pos_right _ (by decide))
    have hpd : q.pd = { r.pd with
        newPowerRequest := true
        prevRequestMv := 0
        timeout := inp.time .message + pdTSinkRequest } := by
      change { r.pd with
        newPowerRequest := true
        prevRequestMv := 0
        timeout := inp.time .message + pdTSinkRequest
        timeoutState := .snkReady } = _
      rw [← hstate]
    have hrestarted : Restarted r q :=
      ⟨⟨q.pd, iff_of_false hlater hset, hpd⟩, rfl, .refl _⟩
    have htail : q.pd.timeout ≤ inp.time .tail ↔ r.pd.timeout ≤ inp.time .tail := htime.symm
    exact (hrestarted.finish .snkRequested htail).standing_eq

/-- An idle port stays as it is. -/
theorem alike_runState_idles (h : p.idles = true) (b : Board) (inp : Input) :
    Alike p (p.runState b inp) := by
  obtain ⟨hrole, hidentity, hready⟩ := of_decide_eq_true h
  have hchecks : p.readyChecks = none := by
    simp only [roleCheckDue, Bool.or_eq_false_iff] at hrole
    simp only [identityPending, roleCheckDue, hrole.1, hrole.2] at hidentity
    unfold readyChecks
    rw [if_neg (by simp [hrole.1]), if_neg (by simp [hrole.2]), if_neg (by simpa using hidentity)]
  unfold runState
  obtain ⟨htask, hcalm⟩ | ⟨htask, hcaps, hsnk, hping⟩ := hready
  · rw [htask]
    simp only [snkReady, hcalm, hchecks, Bool.false_eq_true, if_false, Option.getD_none, ite_self]
    exact .refl p
  · have hpinged : Alike p p.srcPing := by
      have hsent : Alike p (p.sendControl .ping).2 := .transmitted p _ _ _
      unfold srcPing
      simp only
      by_cases hon : p.pd.flags.pingEnabled = true
      · have htx : p.pd.txStatus = .success := hping.resolve_left (by simp [hon])
        have hsucceeds : (p.sendControl .ping).1 = 1 := if_pos htx
        rw [if_neg (not_not.2 hon), hsucceeds, if_pos (by decide)]
        exact hsent
      · rw [if_pos hon]
        exact .refl p
    rw [htask]
    simp only [srcReady, hcaps, hsnk, hchecks, Bool.false_eq_true, not_true_eq_false, false_and,
      if_false, if_true, Option.getD_none]
    split_ifs
    · exact .refl p
    · exact hpinged

/-- The VDM of a partner only ends the port's own. -/
theorem restarted_handleVdmRequest (p : Port) (now : Nat) (payload : List Word) :
    Restarted p (p.handleVdmRequest now payload) := by
  unfold handleVdmRequest
  simp only [pdSvdm, pdCustomVdm, ite_self]
  split_ifs
  · exact ⟨⟨{ p.pd with
      vdmTimeout := now + pdTVdmBusy
      vdmState := .waitRspBusy
      vdoRetry := firstObject payload &&& ~~~0xC0 }, Iff.rfl, rfl⟩, rfl, .refl _⟩
  · exact ⟨⟨{ p.pd with vdmState := .done }, Iff.rfl, rfl⟩, rfl, .refl _⟩
  · exact ⟨⟨p.pd, Iff.rfl, rfl⟩, rfl, .refl _⟩

/-- An idle port is idle behind the VDM of the partner, too. -/
theorem Restarted.idles (h : Restarted p q) (hnew : q.pd.newPowerRequest = p.pd.newPowerRequest)
    (hidle : p.idles = true) : q.idles = true := by
  obtain ⟨x, -, hpd⟩ := h.pd
  unfold Port.idles identityPending roleCheckDue at hidle ⊢
  rw [hnew]
  simp only [hpd]
  exact hidle

/-- The VDM of the partner makes no difference to an idle port. -/
theorem standing_answered (hidle : p.idles = true) (b : Board) (inp : Input) (c : Call)
    (payload : List Word) :
    let q := (p.record c).handleVdmRequest (inp.time .message) payload
    ((q.runState b inp).finish q.pd.taskState inp).standing =
      ((p.runState b inp).finish p.pd.taskState inp).standing := by
  intro q
  have hrestarted : Restarted p q := by
    obtain ⟨hpd, hst, hchip⟩ := restarted_handleVdmRequest (p.record c) (inp.time .message) payload
    exact ⟨hpd, hst, hchip⟩
  have hdoes := (p.record c).does_handleVdmRequest (inp.time .message) payload
  have hnew : q.pd.newPowerRequest = p.pd.newPowerRequest :=
    hdoes.keeps .newPowerRequest (by decide)
  have htask : q.pd.taskState = p.pd.taskState := hdoes.keeps .task (by decide)
  have htimeout : q.pd.timeout = p.pd.timeout :=
    congrArg Prod.fst (hdoes.keeps .timer (by decide))
  have hran := alike_runState_idles hidle b inp
  have hran' := alike_runState_idles (hrestarted.idles hnew hidle) b inp
  rw [htask]
  calc ((q.runState b inp).finish p.pd.taskState inp).standing
      = (q.finish p.pd.taskState inp).standing := (hran'.finish _ inp).standing_eq
    _ = (p.finish p.pd.taskState inp).standing :=
      (hrestarted.finish _ (by rw [htimeout])).standing_eq
    _ = ((p.runState b inp).finish p.pd.taskState inp).standing :=
      ((hran.finish _ inp).standing_eq).symm

/-- A connected port looks at the partner's VDM. -/
theorem handleRequest_vdm (hidle : p.idles = true) (hm : m.isData .vendorDef = true) (now : Nat) :
    p.handleRequest b now m = p.handleVdmRequest now m.payload := by
  obtain ⟨hcnt, htype⟩ : headerCnt m.head ≠ 0 ∧
      DataMsgType.ofField (headerType m.head) = some .vendorDef := by
    simpa [PdMsg.isData] using hm
  have hconn : p.pdIsConnected = true := by
    obtain ⟨-, -, hready⟩ := of_decide_eq_true hidle
    unfold pdIsConnected dualRoleIfElse
    obtain ⟨htask, -⟩ | ⟨htask, -⟩ := hready <;> cases p.pd.powerRole <;> simp [htask]
  unfold handleRequest
  rw [if_neg (not_not.2 hconn), if_pos hcnt]
  simp only [handleDataRequest, htype]

/-- No state of the machine looks at the message. -/
theorem runState_message (inp : Input) (message : Option PdMsg) :
    p.runState b { inp with message := message } = p.runState b inp := by
  unfold runState
  cases p.pd.taskState <;> rfl

/-- An iteration goes from the message straight to the state. -/
theorem step_iterate (hawake : p.control.suspending = false) (b : Board) (inp : Input) :
    p.step b (.iterate inp) =
      (((p.beforeMessage inp).receive b inp).runState b inp).finish
        ((p.beforeMessage inp).receive b inp).pd.taskState inp := by
  rw [← beforeSwitch_eq hawake]
  rfl

/-- An iteration that finds no message goes there from what precedes the message. -/
theorem step_without_message (hawake : p.control.suspending = false) (b : Board) (inp : Input) :
    p.step b (.iterate { inp with message := none }) =
      ((p.beforeMessage inp).runState b inp).finish (p.beforeMessage inp).pd.taskState inp := by
  have hnone : (p.beforeMessage { inp with message := none }).receive b
      { inp with message := none } = p.beforeMessage inp := rfl
  rw [step_iterate hawake, hnone, runState_message]
  rfl

/-- A retransmission that the port ignores changes nothing. -/
theorem standing_of_ignores (b : Board) (es : List Event) (inp₁ inp₂ : Input) (m : PdMsg)
    (hconn : (after b es).pdIsConnected = true) (h₁ : inp₁.message = some m)
    (h₂ : inp₂.message = some m)
    (hignores :
      ((after b (es ++ [.iterate inp₁])).beforeMessage inp₂).ignores b inp₂ m = true) :
    (after b (es ++ [.iterate inp₁, .iterate inp₂])).standing =
      (after b (es ++ [.iterate inp₁, .iterate { inp₂ with message := none }])).standing := by
  have hrests : ∀ fs, (after b fs).control.Rests := (Control.rests_invariant b).always
  have happend : ∀ inp, after b (es ++ [.iterate inp₁, .iterate inp]) =
      (after b (es ++ [.iterate inp₁])).step b (.iterate inp) := by
    intro inp
    rw [← after_append_singleton, List.append_assoc]
    rfl
  have hsink := fun hm => KnowsSink.redelivered (b := b) (hrests es) hconn inp₂ h₁ hm
  rw [← after_append_singleton] at hsink
  rw [happend, happend]
  have hrested := hrests (es ++ [.iterate inp₁])
  have hawake := awake_after b (es ++ [.iterate inp₁])
  generalize after b (es ++ [.iterate inp₁]) = p at *
  rw [step_iterate hawake, step_without_message hawake]
  obtain hreacts | ⟨hwait, hagain⟩ | ⟨hvdm, hidle⟩ : (p.beforeMessage inp₂).reacts b m = false ∨
      (m.isCtrl .wait = true ∧ (p.beforeMessage inp₂).waitsOn inp₂ = true) ∨
      (m.isData .vendorDef = true ∧ (p.beforeMessage inp₂).idles = true) := by
    simpa [ignores, or_assoc] using hignores
  · have hbefore : ((p.beforeMessage inp₂).record (.received m)).control.Rests := by
      rw [control_record, control_beforeMessage]
      exact hrested.applyReset inp₂.reset
    have hhandled : Alike (p.beforeMessage inp₂) ((p.beforeMessage inp₂).receive b inp₂) := by
      have hrecorded : Alike (p.beforeMessage inp₂)
          ((p.beforeMessage inp₂).record (.received m)) := ⟨rfl, rfl, .refl _⟩
      unfold receive
      rw [h₂]
      exact hrecorded.trans (alike_handleRequest hbefore (fun hm _ => hsink hm) _ hreacts)
    exact (hhandled.resumed inp₂).standing_eq
  · have htakes : ((p.beforeMessage inp₂).record (.received m)).takesWait = true :=
      (of_decide_eq_true hagain).1
    have hreceived : (p.beforeMessage inp₂).receive b inp₂ =
        ((p.beforeMessage inp₂).record (.received m)).postpone (inp₂.time .message) := by
      unfold receive
      rw [h₂]
      exact handleRequest_wait_takes b _ hwait htakes
    rw [hreceived]
    exact standing_postpone b hagain (.received m)
  · have hidle' : ((p.beforeMessage inp₂).record (.received m)).idles = true := hidle
    have hreceived : (p.beforeMessage inp₂).receive b inp₂ =
        ((p.beforeMessage inp₂).record (.received m)).handleVdmRequest (inp₂.time .message)
          m.payload := by
      unfold receive
      rw [h₂]
      exact handleRequest_vdm hidle' hvdm _
    rw [hreceived]
    exact standing_answered hidle b inp₂ (.received m) m.payload

end Port

end UsbPd
