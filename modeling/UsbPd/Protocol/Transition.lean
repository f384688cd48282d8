import UsbPd.Protocol.Transmit

/-!
# State changes and resets

`set_state` clears the timer, and on the way into a disconnected state clears
the input current limit, cuts the power of a source and disables reception; a
toggle between the two disconnected states does none of this.
-/

namespace UsbPd

/-- Timer constants of `usb_pd.h` and `usb_pd_driver.h`, in microseconds. -/
def pdTSinkWaitCap : Nat := 600000
def pdTSinkTransition : Nat := 35000
def pdTSenderResponse : Nat := 100000
def pdTPsTransition : Nat := 500000
def pdTPsSourceOn : Nat := 480000
def pdTPsSourceOff : Nat := 920000
def pdTPsHardReset : Nat := 25000
def pdTCcDebounce : Nat := 100000
def pdTDrpSnk : Nat := 40000
def pdTDrpSrc : Nat := 30000
def pdTSrcRecover : Nat := 760000
def pdTSrcRecoverMax : Nat := 1000000
def pdTSrcTurnOn : Nat := 275000
def pdTSafe0v : Nat := 650000
def pdTNoResponse : Nat := 5500000
def pdTTrySrc : Nat := 125000
def pdTTryWait : Nat := 600000
def pdTSinkRequest : Nat := 100000
def pdTVdmBusy : Nat := 100000
def pdTVdmEMode : Nat := 25000
def pdTVdmRcvrRsp : Nat := 15000
def pdTVdmSndrRsp : Nat := 30000
def pdTVdmWaitModeE : Nat := 100000
def pdPowerSupplyTurnOnDelay : Nat := 10000
def pdPowerSupplyTurnOffDelay : Nat := 20000

/-- `PD_HARD_RESET_COUNT`. -/
def pdHardResetCount : Int := 2

/-- `PD_CAPS_COUNT`. -/
def pdCapsCount : Nat := 50

/-- `PD_SNK_CAP_RETRIES`. -/
def pdSnkCapRetries : Int := 3

namespace Port

/-- `DUAL_ROLE_IF_ELSE`. -/
def dualRoleIfElse {α : Type*} (p : Port) (sinkClause srcClause : α) : α :=
  p.pd.powerRole.ifElse sinkClause srcClause

/-- `READY_RETURN_STATE`. -/
def readyReturnState (p : Port) : PdState := p.dualRoleIfElse .snkReady .srcReady

/-- `pd_is_connected`. -/
def pdIsConnected (p : Port) : Bool :=
  if p.pd.taskState = .disabled then false
  else p.dualRoleIfElse
    (p.pd.taskState ≠ .snkDisconnected ∧ p.pd.taskState ≠ .snkDisconnectedDebounce)
    (p.pd.taskState ≠ .srcDisconnected ∧ p.pd.taskState ≠ .srcDisconnectedDebounce)

/-- `set_state_timeout`. -/
def setStateTimeout (p : Port) (timeout : Nat) (timeoutState : PdState) : Port :=
  p.modifyPd fun pd => { pd with timeout := timeout, timeoutState := timeoutState }

/-- The part of `set_state` that runs on the way into a disconnected state. -/
def enterDisconnected (p : Port) : Port :=
  let p := p.pdSetInputCurrentLimit 0 0
  let p := if p.pd.powerRole = .source then p.pdPowerSupplyReset else p
  p.tcpmSetRxEnable false

/-- `set_state`. -/
def setState (p : Port) (nextState : PdState) : Port :=
  let lastState := p.pd.taskState
  let p := (p.setStateTimeout 0 .disabled).setTask nextState
  if lastState = nextState then p
  else if (lastState = .snkDisconnected ∧ nextState = .srcDisconnected) ∨
      (lastState = .srcDisconnected ∧ nextState = .snkDisconnected) then p
  else if nextState = .srcDisconnected ∨ nextState = .snkDisconnected then p.enterDisconnected
  else p

@[simp] theorem setStateTimeout_pd (p : Port) (timeout : Nat) (s : PdState) :
    (p.setStateTimeout timeout s).pd = { p.pd with timeout := timeout, timeoutState := s } := rfl

@[simp] theorem setStateTimeout_st (p : Port) (timeout : Nat) (s : PdState) :
    (p.setStateTimeout timeout s).st = p.st := rfl

@[simp] theorem setStateTimeout_log (p : Port) (timeout : Nat) (s : PdState) :
    (p.setStateTimeout timeout s).log = p.log := rfl

@[simp] theorem enterDisconnected_pd (p : Port) : p.enterDisconnected.pd = p.pd := by
  unfold enterDisconnected
  by_cases h : p.pd.powerRole = .source <;> simp [h]

@[simp] theorem enterDisconnected_st (p : Port) : p.enterDisconnected.st = p.st := by
  unfold enterDisconnected
  by_cases h : p.pd.powerRole = .source <;> simp [h]

/-- `set_state` changes the state and stops the timer. -/
@[simp] theorem setState_pd (p : Port) (s : PdState) : (p.setState s).pd =
    { p.pd with taskState := s, timeout := 0, timeoutState := .disabled } := by
  unfold setState
  simp only
  split_ifs <;> simp

@[simp] theorem setState_st (p : Port) (s : PdState) : (p.setState s).st = p.st := by
  unfold setState
  simp only
  split_ifs <;> simp

/-- Only the way into a disconnected state calls anything. -/
theorem setState_log (p : Port) {s : PdState} (hs : s ≠ .srcDisconnected ∧ s ≠ .snkDisconnected) :
    (p.setState s).log = p.log := by
  unfold setState
  simp only [hs.1, hs.2, or_self, and_false, if_false]
  split <;> rfl

/-- `pd_execute_hard_reset`. -/
def pdExecuteHardReset (p : Port) (now : Nat) : Port :=
  let p := (p.record .executeHardReset).resetMsgId.setLast .hardResetExecute
  let p := if p.pd.taskState = .snkSwapStandby ∨ p.pd.taskState = .snkSwapComplete then
      (p.tcpmSetCc .rd).pdPowerSupplyReset
    else p
  if p.pd.powerRole = .sink then
    (p.pdSetInputCurrentLimit 0 0).setState .snkHardResetRecover
  else
    let p := p.pdPowerSupplyReset
    let p := p.modifyPd fun pd => { pd with srcRecover := now + pdTSrcRecover }
    p.setState .srcHardResetRecover

/-- `execute_soft_reset`. -/
def executeSoftReset (p : Port) : Port :=
  let p := p.resetMsgId
  p.setState (p.dualRoleIfElse .snkDiscovery .srcDiscovery)

/-- `pd_set_data_role`. -/
def pdSetDataRole (p : Port) (role : DataRole) : Port :=
  ((p.modifyPd fun pd => { pd with dataRole := role }).pdExecuteDataSwap role).pdUpdateRoles

@[simp] theorem pdSetDataRole_pd (p : Port) (role : DataRole) :
    (p.pdSetDataRole role).pd = { p.pd with dataRole := role } := rfl

@[simp] theorem pdSetDataRole_st (p : Port) (role : DataRole) :
    (p.pdSetDataRole role).st = p.st := rfl

@[simp] theorem pdSetDataRole_log (p : Port) (role : DataRole) :
    (p.pdSetDataRole role).log = p.log := rfl

/-- `pd_dr_swap`. -/
def pdDrSwap (p : Port) : Port :=
  let p := p.pdSetDataRole p.pd.dataRole.swap
  p.setFlags { p.pd.flags with checkIdentity := true }

/-- `pd_is_power_swapping`. -/
def pdIsPowerSwapping (p : Port) : Bool :=
  p.pd.taskState = .snkSwapSnkDisable ∨ p.pd.taskState = .snkSwapSrcDisable ∨
    p.pd.taskState = .snkSwapStandby ∨ p.pd.taskState = .snkSwapComplete ∨
    p.pd.taskState = .srcSwapSnkDisable ∨ p.pd.taskState = .srcSwapSrcDisable ∨
    p.pd.taskState = .srcSwapStandby

/-- `new_power_request = 0`. -/
def clearNewPowerRequest (p : Port) : Port :=
  p.modifyPd fun pd => { pd with newPowerRequest := false }

/-- `curr_limit`, `supply_voltage` and `prev_request_mv` of a request. -/
def setRequestedPower (p : Port) (currLimit supplyVoltage : Nat) : Port :=
  p.modifyPd fun pd => { pd with
    currLimit := currLimit, supplyVoltage := supplyVoltage, prevRequestMv := supplyVoltage }

@[simp] theorem clearNewPowerRequest_pd (p : Port) :
    p.clearNewPowerRequest.pd = { p.pd with newPowerRequest := false } := rfl

@[simp] theorem clearNewPowerRequest_st (p : Port) : p.clearNewPowerRequest.st = p.st := rfl

@[simp] theorem clearNewPowerRequest_log (p : Port) : p.clearNewPowerRequest.log = p.log := rfl

@[simp] theorem setRequestedPower_pd (p : Port) (ma mv : Nat) :
    (p.setRequestedPower ma mv).pd =
      { p.pd with currLimit := ma, supplyVoltage := mv, prevRequestMv := mv } := rfl

@[simp] theorem setRequestedPower_st (p : Port) (ma mv : Nat) :
    (p.setRequestedPower ma mv).st = p.st := rfl

@[simp] theorem setRequestedPower_log (p : Port) (ma mv : Nat) :
    (p.setRequestedPower ma mv).log = p.log := rfl

/-- Send the request `req`, again only if its voltage differs from the one
requested last or if `alwaysSendRequest`. -/
def sendBuiltRequest (p : Port) (alwaysSendRequest : Bool) (req : PowerRequest) : Int × Port :=
  if alwaysSendRequest = false ∧ p.pd.prevRequestMv = req.supplyVoltage then (0, p)
  else
    let sent := (p.setRequestedPower req.currLimit req.supplyVoltage).sendRequest req.rdo
    if sent.1 < 0 then sent else (0, sent.2.setState .snkRequested)

/-- `pd_send_request_msg`: request the selected capability. -/
def pdSendRequestMsg (p : Port) (alwaysSendRequest : Bool) : Int × Port :=
  let p := p.clearNewPowerRequest
  let built := p.st.pdBuildRequest .max
  if built.1 ≠ .success then (-1, p) else p.sendBuiltRequest alwaysSendRequest built.2

theorem pdSendRequestMsg_eq (p : Port) (alwaysSendRequest : Bool) :
    p.pdSendRequestMsg alwaysSendRequest =
      p.clearNewPowerRequest.sendBuiltRequest alwaysSendRequest
        (requestObject p.st.sourceCapCurrentIndex (p.st.srcCap p.st.sourceCapCurrentIndex)) := by
  simp [pdSendRequestMsg, Statics.pdBuildRequest]

/-- `pd_update_pdo_flags`. -/
def pdUpdatePdoFlags (p : Port) (pdo : Word) : Port :=
  if pdoType pdo ≠ .fixed then p
  else p.setFlags { p.pd.flags with
    partnerDrPower := pdoFixedDualRole pdo
    partnerExtpower := pdoFixedExternal pdo
    partnerUsbComm := pdoFixedCommCap pdo
    partnerDrData := pdoFixedDataSwap pdo }

/-- `pd_process_source_cap`: entries of the table beyond the new count stay. -/
def pdProcessSourceCap (p : Port) (srcCaps : List Word) : Port :=
  let p := p.modifySt fun st => { st with
    srcCapCnt := srcCaps.length, srcCaps := srcCaps ++ st.srcCaps.drop srcCaps.length }
  let power := pdExtractPdoPower (p.st.pdFindPdoIndex pdMaxVoltageMv).2
  p.pdSetInputCurrentLimit power.1 power.2

/-- `pd_process_source_cap_callback` of the sketch. -/
def pdProcessSourceCapCallback (p : Port) (cnt : Nat) : Port :=
  p.modifySt fun st => { st with sourceCapMaxIndex := cnt - 1 }

end Port

end UsbPd
