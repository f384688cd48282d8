import UsbPd.System.Run

/-!
# Scratch variables

Some of the statics never reach the next iteration: a state that looks at the CC
levels measures them first, and the Type-C current and the number of capabilities
are written and looked at by nothing else. Whatever these variables hold, the
functions of the model do the same.
-/

namespace UsbPd

/-- The statics whose values an iteration does not depend on. -/
structure Scratch where
  cc1 : CcVoltage
  cc2 : CcVoltage
  typecCurr : Word
  typecCurrChange : Bool
  sourceCapMaxIndex : Nat

/-- What they hold. -/
def Statics.scratch (st : Statics) : Scratch where
  cc1 := st.cc1
  cc2 := st.cc2
  typecCurr := st.typecCurr
  typecCurrChange := st.typecCurrChange
  sourceCapMaxIndex := st.sourceCapMaxIndex

namespace Port

/-- The port with other values in the scratch variables. -/
def scribble (p : Port) (x : Scratch) : Port :=
  p.modifySt fun st => { st with
    cc1 := x.cc1, cc2 := x.cc2, typecCurr := x.typecCurr, typecCurrChange := x.typecCurrChange,
    sourceCapMaxIndex := x.sourceCapMaxIndex }

section

variable (p : Port) (x : Scratch)

@[simp] theorem scribble_pd : (p.scribble x).pd = p.pd := rfl
@[simp] theorem scribble_chip : (p.scribble x).chip = p.chip := rfl
@[simp] theorem scribble_log : (p.scribble x).log = p.log := rfl

theorem scribble_ite {c : Prop} [Decidable c] (p q : Port) :
    (if c then p else q).scribble x = if c then p.scribble x else q.scribble x :=
  apply_ite (fun r : Port => r.scribble x) c p q

theorem scribble_modifyPd (f : PdProtocol → PdProtocol) :
    (p.modifyPd f).scribble x = (p.scribble x).modifyPd f := rfl
theorem scribble_modifyChip (f : Fusb302 → Fusb302) :
    (p.modifyChip f).scribble x = (p.scribble x).modifyChip f := rfl
theorem scribble_record (c : Call) : (p.record c).scribble x = (p.scribble x).record c := rfl
theorem scribble_pdSetInputCurrentLimit (ma mv : Nat) :
    (p.pdSetInputCurrentLimit ma mv).scribble x = (p.scribble x).pdSetInputCurrentLimit ma mv := rfl
theorem scribble_setFlags (flags : PdFlags) :
    (p.setFlags flags).scribble x = (p.scribble x).setFlags flags := rfl
theorem scribble_setPowerRole (role : PowerRole) :
    (p.setPowerRole role).scribble x = (p.scribble x).setPowerRole role := rfl
theorem scribble_tcpmSetCc (pull : CcPull) :
    (p.tcpmSetCc pull).scribble x = (p.scribble x).tcpmSetCc pull := rfl

theorem scribble_tcpmSetRxEnable (enable : Bool) :
    (p.tcpmSetRxEnable enable).scribble x = (p.scribble x).tcpmSetRxEnable enable := by
  unfold tcpmSetRxEnable
  rw [scribble_ite]
  rfl

theorem scribble_enterDisconnected :
    p.enterDisconnected.scribble x = (p.scribble x).enterDisconnected := by
  unfold enterDisconnected
  rw [scribble_tcpmSetRxEnable, scribble_ite]
  rfl

theorem scribble_setState (s : PdState) :
    (p.setState s).scribble x = (p.scribble x).setState s := by
  unfold setState
  simp only [scribble_ite, scribble_enterDisconnected]
  rfl

theorem scribble_pdExecuteHardReset (now : Nat) :
    (p.pdExecuteHardReset now).scribble x = (p.scribble x).pdExecuteHardReset now := by
  unfold pdExecuteHardReset
  generalize hq : ((p.record .executeHardReset).resetMsgId.setLast .hardResetExecute) = q
  have hr : ((p.scribble x).record .executeHardReset).resetMsgId.setLast .hardResetExecute =
      q.scribble x := by
    rw [← hq]
    rfl
  rw [hr]
  by_cases hswap : q.pd.taskState = .snkSwapStandby ∨ q.pd.taskState = .snkSwapComplete
  · simp only [hswap, scribble_pd, if_true, scribble_ite, scribble_setState]
    rfl
  · simp only [hswap, scribble_pd, if_false, scribble_ite, scribble_setState]
    rfl

theorem scribble_executeSoftReset :
    p.executeSoftReset.scribble x = (p.scribble x).executeSoftReset := by
  unfold executeSoftReset
  rw [scribble_setState]
  rfl

theorem scribble_sendSourceCap (b : Board) :
    (p.sendSourceCap b).2.scribble x = ((p.scribble x).sendSourceCap b).2 := by
  unfold sendSourceCap
  split_ifs <;> rfl

theorem sendSourceCap_scribble_fst (b : Board) :
    ((p.scribble x).sendSourceCap b).1 = (p.sendSourceCap b).1 := by
  unfold sendSourceCap
  split_ifs <;> rfl

theorem scribble_sendBuiltRequest (always : Bool) (req : PowerRequest) :
    (p.sendBuiltRequest always req).2.scribble x =
      ((p.scribble x).sendBuiltRequest always req).2 := by
  unfold sendBuiltRequest
  simp only [apply_ite Prod.snd, scribble_ite, scribble_setState]
  rfl

theorem sendBuiltRequest_scribble_fst (always : Bool) (req : PowerRequest) :
    ((p.scribble x).sendBuiltRequest always req).1 = (p.sendBuiltRequest always req).1 := by
  unfold sendBuiltRequest
  simp only [apply_ite Prod.fst]
  rfl

theorem scribble_clearNewPowerRequest :
    p.clearNewPowerRequest.scribble x = (p.scribble x).clearNewPowerRequest := rfl

theorem srcCap_scribble (i : Nat) : (p.scribble x).st.srcCap i = p.st.srcCap i := rfl

theorem sourceCapCurrentIndex_scribble :
    (p.scribble x).st.sourceCapCurrentIndex = p.st.sourceCapCurrentIndex := rfl

theorem scribble_pdSendRequestMsg (always : Bool) :
    (p.pdSendRequestMsg always).2.scribble x = ((p.scribble x).pdSendRequestMsg always).2 := by
  rw [pdSendRequestMsg_eq, pdSendRequestMsg_eq, scribble_sendBuiltRequest, srcCap_scribble,
    sourceCapCurrentIndex_scribble, scribble_clearNewPowerRequest]

theorem pdSendRequestMsg_scribble_fst (always : Bool) :
    ((p.scribble x).pdSendRequestMsg always).1 = (p.pdSendRequestMsg always).1 := by
  rw [pdSendRequestMsg_eq, pdSendRequestMsg_eq, srcCap_scribble, sourceCapCurrentIndex_scribble,
    ← scribble_clearNewPowerRequest, sendBuiltRequest_scribble_fst]

theorem scribble_pdUpdatePdoFlags (pdo : Word) :
    (p.pdUpdatePdoFlags pdo).scribble x = (p.scribble x).pdUpdatePdoFlags pdo := by
  unfold pdUpdatePdoFlags
  rw [scribble_ite]
  rfl

theorem scribble_pdProcessSourceCap (caps : List Word) :
    (p.pdProcessSourceCap caps).scribble x = (p.scribble x).pdProcessSourceCap caps := rfl

theorem scribble_pdSendVdm (vid cmd : Word) (data : List Word) :
    (p.pdSendVdm vid cmd data).scribble x = (p.scribble x).pdSendVdm vid cmd data := by
  unfold pdSendVdm
  rw [scribble_ite]
  rfl

theorem scribble_handleVdmRequest (now : Nat) (payload : List Word) :
    (p.handleVdmRequest now payload).scribble x = (p.scribble x).handleVdmRequest now payload := by
  unfold handleVdmRequest
  simp only [pdSvdm, pdCustomVdm, ite_self, scribble_ite]
  rfl

theorem scribble_sendQueuedVdm (now : Nat) :
    (p.sendQueuedVdm now).scribble x = (p.scribble x).sendQueuedVdm now := by
  unfold sendQueuedVdm
  simp only [scribble_ite]
  rfl

theorem scribble_pdVdmSendStateMachine (now : Nat) :
    (p.pdVdmSendStateMachine now).scribble x = (p.scribble x).pdVdmSendStateMachine now := by
  have hbusy : p.pdoBusy = (p.scribble x).pdoBusy := rfl
  have hconnected : p.pdIsConnected = (p.scribble x).pdIsConnected := rfl
  unfold pdVdmSendStateMachine
  rw [scribble_pd]
  cases p.pd.vdmState with
  | ready =>
      simp only [scribble_ite, hbusy, hconnected, scribble_sendQueuedVdm]
      rfl
  | waitRspBusy => exact scribble_ite x _ _
  | busy => exact scribble_ite x _ _
  | _ => rfl

/-! Messages. -/

theorem scribble_handleRequestMsg (b : Board) (payload : List Word) :
    (p.handleRequestMsg b payload).scribble x = (p.scribble x).handleRequestMsg b payload := by
  unfold handleRequestMsg acceptRequest
  simp only [scribble_ite, scribble_setState]
  rfl

theorem scribble_handleBist (payload : List Word) :
    (p.handleBist payload).scribble x = (p.scribble x).handleBist payload := by
  unfold handleBist
  simp only [scribble_ite, scribble_setState]
  rfl

theorem scribble_handleSinkCap (payload : List Word) :
    (p.handleSinkCap payload).scribble x = (p.scribble x).handleSinkCap payload := by
  have hflags : ∀ flags, (p.scribble x).setFlags flags = (p.setFlags flags).scribble x :=
    fun _ => rfl
  unfold handleSinkCap
  simp only [scribble_ite, scribble_setState, hflags, ← scribble_pdUpdatePdoFlags, scribble_pd]

theorem scribble_handleGetSourceCap (b : Board) :
    (p.handleGetSourceCap b).scribble x = (p.scribble x).handleGetSourceCap b := by
  unfold handleGetSourceCap
  simp only [scribble_ite, scribble_setState, sendSourceCap_scribble_fst,
    ← scribble_sendSourceCap, scribble_pd]

theorem scribble_handlePsRdy : p.handlePsRdy.scribble x = (p.scribble x).handlePsRdy := by
  unfold handlePsRdy
  simp only [scribble_ite, scribble_setState, scribble_pdSetInputCurrentLimit, setState_pd]
  rfl

theorem scribble_handleRejectWait (now : Nat) (wait : Bool) :
    (p.handleRejectWait now wait).scribble x = (p.scribble x).handleRejectWait now wait := by
  unfold handleRejectWait
  simp only [scribble_ite, scribble_setState]
  rfl

theorem scribble_handleAccept : p.handleAccept.scribble x = (p.scribble x).handleAccept := by
  unfold handleAccept
  simp only [scribble_ite, scribble_setState, scribble_executeSoftReset]
  rfl

theorem scribble_handlePrSwap : p.handlePrSwap.scribble x = (p.scribble x).handlePrSwap := by
  unfold handlePrSwap
  simp only [scribble_ite, scribble_setState]
  rfl

theorem scribble_handleDrSwap : p.handleDrSwap.scribble x = (p.scribble x).handleDrSwap := by
  unfold handleDrSwap
  simp only [scribble_ite]
  rfl

theorem scribble_handleSoftReset :
    p.handleSoftReset.scribble x = (p.scribble x).handleSoftReset := by
  unfold handleSoftReset
  rw [← scribble_executeSoftReset]
  rfl

/-! The states that measure nothing. -/

theorem scribble_armOnEntry (timeout : Nat) (s : PdState) :
    (p.armOnEntry timeout s).scribble x = (p.scribble x).armOnEntry timeout s := by
  unfold armOnEntry
  rw [scribble_ite]
  rfl

theorem scribble_suspended : p.suspended.scribble x = (p.scribble x).suspended := by
  unfold suspended
  simp only [scribble_ite, scribble_setState]
  rfl

theorem scribble_srcHardResetRecover (inp : Input) :
    (p.srcHardResetRecover inp).scribble x = (p.scribble x).srcHardResetRecover inp := by
  unfold srcHardResetRecover
  simp only [scribble_ite, scribble_setState]
  rfl

theorem scribble_srcStartup (inp : Input) :
    (p.srcStartup inp).scribble x = (p.scribble x).srcStartup inp := by
  unfold srcStartup
  rw [scribble_ite]
  rfl

theorem scribble_sendOnEntry (inp : Input) (type : CtrlMsgType) (back : PdState) :
    (p.sendOnEntry inp type back).scribble x = (p.scribble x).sendOnEntry inp type back := by
  unfold sendOnEntry
  simp only [scribble_ite, scribble_setState]
  rfl

theorem scribble_srcPowered (inp : Input) :
    (p.srcPowered inp).scribble x = (p.scribble x).srcPowered inp := by
  unfold srcPowered
  rw [scribble_ite]
  rfl

theorem scribble_srcTransition : p.srcTransition.scribble x = (p.scribble x).srcTransition := by
  unfold srcTransition
  simp only [scribble_ite, scribble_setState]
  rfl

theorem scribble_srcPing : p.srcPing.scribble x = (p.scribble x).srcPing := by
  unfold srcPing
  simp only [scribble_ite, scribble_setState]
  rfl

theorem readyChecks_scribble :
    (p.scribble x).readyChecks = p.readyChecks.map fun r => r.scribble x := by
  unfold readyChecks
  simp only [apply_ite (Option.map _), Option.map_some, Option.map_none, scribble_setFlags,
    scribble_pdSendVdm]
  rw [← scribble_pdSendVdm]
  rfl

theorem scribble_srcSwapSrcDisable (inp : Input) :
    (p.srcSwapSrcDisable inp).scribble x = (p.scribble x).srcSwapSrcDisable inp := by
  unfold srcSwapSrcDisable
  rw [scribble_ite]
  rfl

theorem scribble_srcSwapStandby (inp : Input) :
    (p.srcSwapStandby inp).scribble x = (p.scribble x).srcSwapStandby inp := by
  unfold srcSwapStandby
  simp only [scribble_ite, scribble_setState]
  rfl

theorem scribble_armSnkDiscovery (inp : Input) :
    (p.armSnkDiscovery inp).scribble x = (p.scribble x).armSnkDiscovery inp := by
  unfold armSnkDiscovery
  simp only [scribble_ite]
  rfl

theorem scribble_snkRequested (inp : Input) :
    (p.snkRequested inp).scribble x = (p.scribble x).snkRequested inp := by
  unfold snkRequested
  rw [scribble_ite]
  rfl

theorem scribble_snkReady : p.snkReady.scribble x = (p.scribble x).snkReady := by
  unfold snkReady
  simp only [scribble_ite, scribble_setState, readyChecks_scribble, Option.getD_map,
    scribble_pdSendRequestMsg, pdSendRequestMsg_scribble_fst, scribble_pd]

theorem scribble_snkSwapSnkDisable :
    p.snkSwapSnkDisable.scribble x = (p.scribble x).snkSwapSnkDisable := by
  unfold snkSwapSnkDisable
  rw [scribble_setState]
  rfl

theorem scribble_snkSwapStandby (inp : Input) :
    (p.snkSwapStandby inp).scribble x = (p.scribble x).snkSwapStandby inp := by
  unfold snkSwapStandby
  simp only [scribble_ite, scribble_setState]
  rfl

theorem scribble_snkSwapComplete :
    p.snkSwapComplete.scribble x = (p.scribble x).snkSwapComplete := by
  unfold snkSwapComplete
  simp only [scribble_ite, scribble_setState]
  rfl

theorem scribble_softReset (inp : Input) :
    (p.softReset inp).scribble x = (p.scribble x).softReset inp := by
  unfold softReset
  simp only [scribble_ite, scribble_setState]
  rfl

theorem entering_scribble : (p.scribble x).entering = p.entering := rfl

theorem scribble_srcDiscovery (b : Board) (inp : Input) :
    (p.srcDiscovery b inp).scribble x = (p.scribble x).srcDiscovery b inp := by
  have hsent : ∀ r : Port,
      (r.modifySt fun st => { st with hardResetCount := 0, capsCount := 0 }).scribble x =
        (r.scribble x).modifySt fun st => { st with hardResetCount := 0, capsCount := 0 } :=
    fun _ => rfl
  have hcount : ∀ r : Port,
      (r.modifySt fun st => { st with capsCount := st.capsCount + 1 }).scribble x =
        (r.scribble x).modifySt fun st => { st with capsCount := st.capsCount + 1 } :=
    fun _ => rfl
  unfold srcDiscovery
  generalize hq : (if p.entering = true ∧ p.pd.flags.previousPdConn = true then _ else p : Port) = q
  generalize hr : (if (p.scribble x).entering = true ∧
    (p.scribble x).pd.flags.previousPdConn = true then _ else p.scribble x : Port) = r
  have hqr : r = q.scribble x := by
    rw [← hq, ← hr, scribble_ite]
    rfl
  rw [hqr]
  simp only [scribble_ite, scribble_setFlags, hsent, hcount, scribble_setState,
    scribble_sendSourceCap, sendSourceCap_scribble_fst]
  rw [← scribble_sendSourceCap, ← scribble_setState]
  rfl

theorem scribble_srcReady (b : Board) :
    (p.srcReady b).scribble x = (p.scribble x).srcReady b := by
  unfold srcReady
  generalize hq : (if p.pd.flags.snkCapRecvd = true then p else _ : Port) = q
  generalize hr : (if (p.scribble x).pd.flags.snkCapRecvd = true then _ else _ : Port) = r
  have hqr : r = q.scribble x := by
    rw [← hq, ← hr, scribble_ite]
    rfl
  rw [hqr]
  simp only [scribble_ite, scribble_setFlags, scribble_setState, readyChecks_scribble,
    Option.getD_map, scribble_sendSourceCap, sendSourceCap_scribble_fst, ← scribble_srcPing]
  rw [← scribble_sendSourceCap, ← scribble_setState]
  rfl

theorem scribble_snkHardResetRecover (inp : Input) :
    (p.snkHardResetRecover inp).scribble x = (p.scribble x).snkHardResetRecover inp := by
  unfold snkHardResetRecover
  simp only [pdIsVbusPresent, not_true_eq_false, false_and, if_false, true_and, scribble_ite,
    scribble_setState]
  by_cases hfirst : p.entering = true
  · simp only [entering_scribble, hfirst, if_true]
    rfl
  · simp only [entering_scribble, hfirst]
    rfl

theorem scribble_sendHardReset (inp : Input) :
    (p.sendHardReset inp).scribble x = (p.scribble x).sendHardReset inp := by
  unfold sendHardReset
  simp only [scribble_ite, scribble_setState]
  rfl

theorem scribble_hardResetSend (inp : Input) :
    (p.hardResetSend inp).scribble x = (p.scribble x).hardResetSend inp := by
  unfold hardResetSend
  simp only [scribble_sendHardReset, scribble_ite]
  rfl

theorem scribble_hardResetExecute (inp : Input) :
    (p.hardResetExecute inp).scribble x = (p.scribble x).hardResetExecute inp := by
  unfold hardResetExecute
  rw [scribble_pdExecuteHardReset, scribble_ite]
  rfl

theorem scribble_applySuspend : p.applySuspend.scribble x = (p.scribble x).applySuspend := by
  unfold applySuspend
  rw [scribble_ite, scribble_setState]
  rfl

theorem scribble_checkTimeout (now : Nat) :
    (p.checkTimeout now).scribble x = (p.scribble x).checkTimeout now := by
  unfold checkTimeout
  rw [scribble_ite, scribble_setState]
  rfl

theorem scribble_completeTransmissions (irq : Interrupts) :
    (p.completeTransmissions irq).scribble x = (p.scribble x).completeTransmissions irq := by
  unfold completeTransmissions
  split_ifs <;> rfl

theorem scribble_tcpcAlert (irq : Interrupts) (now : Nat) :
    (p.tcpcAlert irq now).scribble x = (p.scribble x).tcpcAlert irq now := by
  have hreport : ((p.scribble x).record (.alert irq)).completeTransmissions irq =
      ((p.record (.alert irq)).completeTransmissions irq).scribble x := by
    rw [scribble_completeTransmissions, scribble_record]
  have hreset : ∀ q : Port, ((q.scribble x).modifyChip Fusb302.pdReset).pdExecuteHardReset now =
      ((q.modifyChip Fusb302.pdReset).pdExecuteHardReset now).scribble x := by
    intro q
    rw [scribble_pdExecuteHardReset, scribble_modifyChip]
  have hflush : ∀ q : Port,
      (if irq.gcrcSent = true ∧ ¬ q.chip.rxEnable = true then q.modifyChip Fusb302.flushRxFifo
        else q).scribble x =
        if irq.gcrcSent = true ∧ ¬ (q.scribble x).chip.rxEnable = true then
          (q.scribble x).modifyChip Fusb302.flushRxFifo
        else q.scribble x := by
    intro q
    by_cases hflush : irq.gcrcSent = true ∧ ¬ q.chip.rxEnable = true
    · rw [if_pos hflush]
      exact (if_pos (c := irq.gcrcSent = true ∧ ¬ (q.scribble x).chip.rxEnable = true) hflush).symm
    · rw [if_neg hflush]
      exact (if_neg (c := irq.gcrcSent = true ∧ ¬ (q.scribble x).chip.rxEnable = true) hflush).symm
  unfold tcpcAlert
  simp only [hreport, hreset, hflush, scribble_ite]

end

end Port

end UsbPd
