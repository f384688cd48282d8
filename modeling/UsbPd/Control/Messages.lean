import UsbPd.Control.Operations

/-!
# State changes and messages on the control machine

`set_state`, the resets and the message handlers act on the control part of a
port as their counterparts on the control machine do, or as one of its
outcomes.
-/

namespace UsbPd

namespace Port

variable (p : Port)

/-! The fields of the control part. -/

@[simp] theorem control_task : p.control.task = p.pd.taskState := rfl

@[simp] theorem control_last : p.control.last = p.pd.lastState := rfl

@[simp] theorem control_role : p.control.role = p.pd.powerRole := rfl

@[simp] theorem control_explicit : p.control.explicit = p.pd.flags.explicitContract := rfl

@[simp] theorem control_pullingUp : p.control.pullingUp = p.chip.pullingUp := rfl

@[simp] theorem control_vconn : p.control.vconn = p.chip.vconnEnabled := rfl

@[simp] theorem control_hardResetSent : p.control.hardResetSent = p.st.hardResetSent := rfl

@[simp] theorem control_suspending : p.control.suspending = p.pd.reqSuspendState := rfl

@[simp] theorem control_entering : p.control.entering = p.entering := rfl

@[simp] theorem control_connected : p.control.connected = p.pdIsConnected := rfl

@[simp] theorem control_powerSwapping : p.control.powerSwapping = p.pdIsPowerSwapping := rfl

@[simp] theorem control_readyReturnState :
    p.control.readyReturnState = p.readyReturnState := rfl

@[simp] theorem control_roleIfElse {α : Type*} (a c : α) :
    p.control.roleIfElse a c = p.dualRoleIfElse a c := rfl

/-! State changes and resets. -/

theorem control_goto (next : PdState) :
    ((p.setStateTimeout 0 .disabled).setTask next).control = p.control.goto next := rfl

@[simp] theorem control_setState (next : PdState) :
    (p.setState next).control = p.control.setState next := by
  unfold setState Control.setState
  by_cases hsame : p.pd.taskState = next
  · simp [hsame, control_goto]
  · by_cases htoggle : (p.pd.taskState = .snkDisconnected ∧ next = .srcDisconnected) ∨
        (p.pd.taskState = .srcDisconnected ∧ next = .snkDisconnected)
    · simp [hsame, htoggle, control_goto]
    · by_cases hdis : next = .srcDisconnected ∨ next = .snkDisconnected
      · simp [hsame, htoggle, hdis, control_goto]
      · simp [hsame, htoggle, hdis, control_goto]

@[simp] theorem control_setLast (state : PdState) :
    (p.setLast state).control = p.control.setLast state := rfl

@[simp] theorem control_pdExecuteHardReset (now : Nat) :
    (p.pdExecuteHardReset now).control = p.control.executeHardReset := by
  have hrecover : ∀ q : Port,
      (q.modifyPd fun pd => { pd with srcRecover := now + pdTSrcRecover }).control = q.control :=
    fun _ => rfl
  unfold pdExecuteHardReset Control.executeHardReset
  by_cases hswap : p.pd.taskState = .snkSwapStandby ∨ p.pd.taskState = .snkSwapComplete
  · by_cases hrole : p.pd.powerRole = .sink
    · simp [hswap, hrole]
    · simp [hswap, hrole, hrecover]
  · by_cases hrole : p.pd.powerRole = .sink
    · simp [hswap, hrole]
    · simp [hswap, hrole, hrecover]

@[simp] theorem control_executeSoftReset :
    p.executeSoftReset.control = p.control.executeSoftReset := by
  simp [executeSoftReset, Control.executeSoftReset, dualRoleIfElse]

theorem control_modifyPd (f : PdProtocol → PdProtocol)
    (h : (f p.pd).taskState = p.pd.taskState ∧ (f p.pd).lastState = p.pd.lastState ∧
      (f p.pd).powerRole = p.pd.powerRole ∧ (f p.pd).timeout = p.pd.timeout ∧
      (f p.pd).timeoutState = p.pd.timeoutState ∧
      (f p.pd).flags.explicitContract = p.pd.flags.explicitContract ∧
      (f p.pd).txStatus = p.pd.txStatus ∧ (f p.pd).reqSuspendState = p.pd.reqSuspendState) :
    (p.modifyPd f).control = p.control := by
  obtain ⟨htask, hlast, hrole, htimeout, hstate, hflags, htx, hsuspend⟩ := h
  simp [control, htask, hlast, hrole, htimeout, hstate, hflags, htx, hsuspend]

theorem control_modifySt (g : Statics → Statics)
    (h : (g p.st).hardResetCount = p.st.hardResetCount ∧
      (g p.st).hardResetSent = p.st.hardResetSent) :
    (p.modifySt g).control = p.control := by
  obtain ⟨hcount, hsent⟩ := h
  simp [control, hcount, hsent]

@[simp] theorem control_pdSetDataRole (role : DataRole) :
    (p.pdSetDataRole role).control = p.control := rfl

@[simp] theorem control_pdDrSwap : p.pdDrSwap.control = p.control := rfl

@[simp] theorem control_pdUpdatePdoFlags (pdo : Word) :
    (p.pdUpdatePdoFlags pdo).control = p.control := by
  unfold pdUpdatePdoFlags
  split
  · rfl
  · rfl

@[simp] theorem control_pdProcessSourceCap (srcCaps : List Word) :
    (p.pdProcessSourceCap srcCaps).control = p.control := rfl

@[simp] theorem control_pdProcessSourceCapCallback (cnt : Nat) :
    (p.pdProcessSourceCapCallback cnt).control = p.control := rfl

@[simp] theorem control_clearNewPowerRequest : p.clearNewPowerRequest.control = p.control := rfl

@[simp] theorem control_setRequestedPower (ma mv : Nat) :
    (p.setRequestedPower ma mv).control = p.control := rfl

/-- A request goes out and the port waits for the answer, or, when the same
voltage need not be requested again or the transmission fails, nothing
changes. -/
theorem sendBuiltRequest_cases (always : Bool) (req : PowerRequest) :
    ((p.sendBuiltRequest always req).1 = 0 ∧ p.control.txOk = true ∧
      (p.sendBuiltRequest always req).2.control = p.control.setState .snkRequested) ∨
    ((p.sendBuiltRequest always req).1 = 0 ∧ always = false ∧
      (p.sendBuiltRequest always req).2.control = p.control) ∨
    ((p.sendBuiltRequest always req).1 ≠ 0 ∧ p.control.txOk = false ∧
      (p.sendBuiltRequest always req).2.control = p.control) := by
  unfold sendBuiltRequest
  by_cases hskip : always = false ∧ p.pd.prevRequestMv = req.supplyVoltage
  · rw [if_pos hskip]
    exact .inr (.inl ⟨rfl, hskip.1, rfl⟩)
  · rw [if_neg hskip]
    have hneg : ((p.setRequestedPower req.currLimit req.supplyVoltage).sendRequest req.rdo).1 < 0 ↔
        p.control.txOk = false := by
      rw [sendRequest_neg, control_setRequestedPower]
    by_cases htx : p.control.txOk = false
    · simp only [if_pos (hneg.2 htx)]
      refine .inr (.inr ⟨?_, htx, by simp⟩)
      have := hneg.2 htx
      omega
    · simp only [if_neg (mt hneg.1 htx)]
      exact .inl ⟨trivial, by simpa using htx, by simp⟩

theorem pdSendRequestMsg_cases (always : Bool) :
    ((p.pdSendRequestMsg always).1 = 0 ∧ p.control.txOk = true ∧
      (p.pdSendRequestMsg always).2.control = p.control.setState .snkRequested) ∨
    ((p.pdSendRequestMsg always).1 = 0 ∧ always = false ∧
      (p.pdSendRequestMsg always).2.control = p.control) ∨
    ((p.pdSendRequestMsg always).1 ≠ 0 ∧ p.control.txOk = false ∧
      (p.pdSendRequestMsg always).2.control = p.control) := by
  rw [pdSendRequestMsg_eq]
  simpa only [control_clearNewPowerRequest] using
    p.clearNewPowerRequest.sendBuiltRequest_cases always _

/-! Vendor defined messages never touch the control part. -/

@[simp] theorem control_queueVdm (header : Word) (data : List Word) :
    (p.queueVdm header data).control = p.control := rfl

@[simp] theorem control_pdSendVdm (vid cmd : Word) (data : List Word) :
    (p.pdSendVdm vid cmd data).control = p.control := by
  unfold pdSendVdm
  split <;> simp

@[simp] theorem control_sendQueuedVdm (now : Nat) :
    (p.sendQueuedVdm now).control = p.control := by
  unfold sendQueuedVdm
  simp only
  split <;> simp [control_modifyPd]

@[simp] theorem control_pdVdmSendStateMachine (now : Nat) :
    (p.pdVdmSendStateMachine now).control = p.control := by
  unfold pdVdmSendStateMachine
  cases p.pd.vdmState with
  | ready => simp only; split_ifs <;> simp [control_modifyPd]
  | waitRspBusy => simp only; split <;> simp [control_modifyPd]
  | busy => simp only; split <;> simp [control_modifyPd]
  | _ => rfl

@[simp] theorem control_handleVdmRequest (now : Nat) (payload : List Word) :
    (p.handleVdmRequest now payload).control = p.control := by
  have hresponse : (if pdVdoSvdm (firstObject payload) then pdSvdm else pdCustomVdm) = [] := by
    split <;> rfl
  unfold handleVdmRequest
  simp only [hresponse]
  split
  · simp [control_modifyPd]
  · split <;> simp [control_modifyPd]

/-! Data messages. -/

theorem control_handleSourceCap_mem (payload : List Word) (acceptable : Bool) :
    (p.handleSourceCap payload).control ∈
      p.control.handleData acceptable (some .sourceCap) := by
  unfold handleSourceCap Control.handleData
  by_cases htask : p.pd.taskState = .snkDiscovery ∨ p.pd.taskState = .snkTransition ∨
      p.pd.taskState = .snkReady
  · simp only [htask, if_true, control_pdProcessSourceCapCallback, control_task, true_and]
    generalize hq : ((p.setFlags { p.pd.flags with previousPdConn := true }).pdUpdatePdoFlags
      (firstObject payload)).pdProcessSourceCap payload = q
    have hcontrol : q.control = p.control := by
      rw [← hq]
      simp
    rcases q.pdSendRequestMsg_cases true with ⟨-, htx, h⟩ | ⟨-, hfalse, -⟩ | ⟨-, htx, h⟩
    · rw [hcontrol] at htx h
      simp [htx, h]
    · cases hfalse
    · rw [hcontrol] at htx h
      simp [htx, h]
  · simp [htask]

theorem control_acceptRequest (rdo : Word) :
    (p.acceptRequest rdo).control = if p.control.txOk then
      ((p.control.note .contractAgreed).setExplicit true).setState .srcAccepted
    else p.control := by
  unfold acceptRequest
  by_cases htx : p.control.txOk = true
  · have hsent : ¬ (p.sendControl .accept).1 < 0 := by
      simp [sendControl_neg, htx]
    simp only [hsent, if_false, htx, if_true, control_setState]
    simp [control_modifyPd]
  · have hfail : (p.sendControl .accept).1 < 0 := by
      simpa [sendControl_neg] using htx
    simp [hfail, htx]

theorem control_handleRequestMsg_mem (b : Board) (payload : List Word) :
    (p.handleRequestMsg b payload).control ∈ p.control.handleData
      (payload.length = 1 ∧ pdCheckRequestedVoltage b (firstObject payload) = .success)
      (some .request) := by
  unfold handleRequestMsg Control.handleData
  simp only [control_role, decide_eq_true_eq]
  by_cases haccept : p.pd.powerRole = .source ∧ payload.length = 1 ∧
      pdCheckRequestedVoltage b (firstObject payload) = .success
  · rw [if_pos haccept, if_pos haccept, control_acceptRequest]
    by_cases htx : p.control.txOk = true <;> simp [htx]
  · rw [if_neg haccept, if_neg haccept]
    simp

theorem control_handleBist_mem (payload : List Word) (acceptable : Bool) :
    (p.handleBist payload).control ∈ p.control.handleData acceptable (some .bist) := by
  unfold handleBist Control.handleData
  by_cases htask : p.pd.taskState = p.readyReturnState
  · by_cases hmode : bistCarrierMode2 (firstObject payload)
    · simp [htask, hmode, dualRoleIfElse]
    · simp [htask, hmode]
  · simp [htask]

theorem control_handleSinkCap_mem (payload : List Word) (acceptable : Bool) :
    (p.handleSinkCap payload).control ∈ p.control.handleData acceptable (some .sinkCap) := by
  have hcontrol : ((p.setFlags { p.pd.flags with snkCapRecvd := true }).pdUpdatePdoFlags
      (firstObject payload)).control = p.control := by
    simp
  generalize hq : (p.setFlags { p.pd.flags with snkCapRecvd := true }).pdUpdatePdoFlags
    (firstObject payload) = q at hcontrol
  have htask : q.pd.taskState = p.pd.taskState := congrArg Control.task hcontrol
  unfold handleSinkCap Control.handleData
  simp only [hq]
  by_cases h : p.pd.taskState = .srcGetSinkCap
  · simp [htask, h, hcontrol]
  · simp [htask, h, hcontrol]

/-! Control messages. -/

theorem control_handleGetSourceCap (b : Board) :
    (p.handleGetSourceCap b).control = p.control.handleCtrl (some .getSourceCap) := by
  unfold handleGetSourceCap Control.handleCtrl
  simp only [sendSourceCap_nonneg, sendSourceCap_pd, control_task]
  by_cases h : p.control.txOk = true ∧ p.pd.taskState = .srcDiscovery
  · simp [h]
  · simp only [h, if_false, control_sendSourceCap]

theorem control_handlePsRdy : p.handlePsRdy.control = p.control.handlePsRdy := by
  unfold handlePsRdy Control.handlePsRdy
  by_cases h₁ : p.pd.taskState = .snkSwapSrcDisable
  · simp [h₁]
  by_cases h₂ : p.pd.taskState = .srcSwapStandby
  · simp [h₂]
  by_cases h₃ : p.pd.taskState = .snkDiscovery
  · simp [h₃]
  by_cases h₄ : p.pd.taskState = .snkSwapStandby
  · simp [h₄]
  by_cases h₅ : p.pd.powerRole = .sink
  · simp [h₁, h₂, h₃, h₄, h₅]
  · simp [h₁, h₂, h₃, h₄, h₅]

theorem control_handleRejectWait (now : Nat) (wait : Bool) :
    (p.handleRejectWait now wait).control = p.control.handleRejectWait wait := by
  unfold handleRejectWait Control.handleRejectWait
  by_cases h₁ : p.pd.taskState = .drSwap
  · simp [h₁]
  by_cases h₂ : p.pd.taskState = .srcSwapInit
  · simp [h₂]
  by_cases h₃ : p.pd.taskState = .snkSwapInit
  · simp [h₃]
  by_cases h₄ : p.pd.taskState = .snkRequested
  · by_cases h₅ : p.pd.flags.explicitContract
    · have htimeout : now + pdTSinkRequest ≠ 0 := by simp [pdTSinkRequest]
      cases wait with
      | true => simp [h₄, h₅, control_setStateTimeout _ htimeout, control_modifyPd]
      | false => simp [h₄, h₅]
    · simp [h₄, h₅]
  · simp [h₁, h₂, h₃, h₄]

theorem control_handleAccept : p.handleAccept.control = p.control.handleAccept := by
  unfold handleAccept Control.handleAccept
  by_cases h₁ : p.pd.taskState = .softReset
  · simp [h₁]
  by_cases h₂ : p.pd.taskState = .drSwap
  · simp [h₂]
    rfl
  by_cases h₃ : p.pd.taskState = .srcSwapInit
  · simp [h₃]
  by_cases h₄ : p.pd.taskState = .snkSwapInit
  · simp [h₄]
  by_cases h₅ : p.pd.taskState = .snkRequested
  · simp [h₅]
  · simp [h₁, h₂, h₃, h₄, h₅]

theorem control_handleSoftReset :
    p.handleSoftReset.control = p.control.handleCtrl (some .softReset) := by
  simp [handleSoftReset, Control.handleCtrl]

theorem control_handleCtrlRequest (b : Board) (now : Nat) (m : PdMsg) :
    (p.handleCtrlRequest b now m).control =
      p.control.handleCtrl (CtrlMsgType.ofField (headerType m.head)) := by
  unfold handleCtrlRequest
  cases CtrlMsgType.ofField (headerType m.head) with
  | none => rfl
  | some type =>
      cases type with
      | getSourceCap => exact p.control_handleGetSourceCap b
      | psRdy => exact p.control_handlePsRdy
      | reject => exact p.control_handleRejectWait now false
      | wait => exact p.control_handleRejectWait now true
      | accept => exact p.control_handleAccept
      | softReset => exact p.control_handleSoftReset
      | getSinkCap => exact p.control_sendSinkCap b
      | prSwap => simp [handlePrSwap, pdCheckPowerSwap, Control.handleCtrl]
      | drSwap => simp [handleDrSwap, pdCheckDataSwap, Control.handleCtrl]
      | vconnSwap => simp [Control.handleCtrl]
      | _ => rfl

theorem control_handleDataRequest_mem (b : Board) (now : Nat) (m : PdMsg) :
    (p.handleDataRequest b now m).control ∈ p.control.handleData
      (m.payload.length = 1 ∧ pdCheckRequestedVoltage b (firstObject m.payload) = .success)
      (DataMsgType.ofField (headerType m.head)) := by
  unfold handleDataRequest
  cases DataMsgType.ofField (headerType m.head) with
  | none => simp [Control.handleData]
  | some type =>
      cases type with
      | sourceCap => exact p.control_handleSourceCap_mem m.payload _
      | request => exact p.control_handleRequestMsg_mem b m.payload
      | bist => exact p.control_handleBist_mem m.payload _
      | sinkCap => exact p.control_handleSinkCap_mem m.payload _
      | vendorDef => simp [Control.handleData]

theorem control_handleRequest_mem (b : Board) (now : Nat) (m : PdMsg) :
    (p.handleRequest b now m).control ∈ p.control.handle (m.kind b) := by
  unfold handleRequest Control.handle
  by_cases hconn : p.pdIsConnected
  · by_cases hcnt : headerCnt m.head = 0
    · simp [hconn, hcnt, PdMsg.kind, control_handleCtrlRequest]
    · have := p.control_handleDataRequest_mem b now m
      simpa [hconn, hcnt, PdMsg.kind] using this
  · simp [hconn]

theorem control_applyReset (reset : Bool) :
    (p.applyReset reset).control = p.control.applyReset reset := by
  cases reset <;> rfl

theorem control_beforeMessage (inp : Input) :
    (p.beforeMessage inp).control = p.control.applyReset inp.reset := by
  simp [beforeMessage, checkBoardAndEvents_eq, control_applyReset]

theorem control_receive_mem (b : Board) (inp : Input) :
    (p.receive b inp).control ∈ p.control.receive (inp.message.map (PdMsg.kind b)) := by
  unfold receive
  cases inp.message with
  | none => simp [Control.receive]
  | some m =>
      have := (p.record (.received m)).control_handleRequest_mem b (inp.time .message) m
      simpa [Control.receive] using this

end Port

end UsbPd
