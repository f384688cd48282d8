import UsbPd.Protocol.States

/-!
# One iteration of the state machine

`pd_run_state_machine` in its order: the VDM state machine, the board check, the
events, the received message, the switch over the state, and then the state
timeout and the detection of a detach.
-/

namespace UsbPd

namespace Port

/-- `pd_update_dual_role_config`. -/
def pdUpdateDualRoleConfig (p : Port) : Port :=
  let p := if p.pd.powerRole = .source ∧
      ((p.st.drpState = .forceSink ∧ ¬ p.pd.flags.tsDtsPartner) ∨
        (p.st.drpState = .toggleOff ∧ p.pd.taskState = .srcDisconnected)) then
      (((p.setPowerRole .sink).setState .snkDisconnected).tcpmSetCc .rd).pdPowerSupplyReset
    else p
  if p.pd.powerRole = .sink ∧ p.st.drpState = .forceSource then
    ((p.setPowerRole .source).setState .srcDisconnected).tcpmSetCc .rp
  else p

/-- The reaction to `PD_EVENT_TCPC_RESET`. -/
def tcpcResetEvent (p : Port) : Port :=
  let p := p.tcpmInit.2.tcpmSetCc .rd
  if p.pd.vdmState = .done ∧ p.pd.taskState = .snkReady then
    ((p.tcpmSetPolarity p.pd.polarity).pdUpdateRoles).tcpmSetRxEnable true
  else
    let p := p.setPowerRole .sink
    (p.modifyPd fun pd => { pd with vdmState := .done }).setState .snkDisconnected

/-- The board check and the events ahead of the message. -/
def checkBoardAndEvents (p : Port) (now : Nat) : Port :=
  let p := if pdBoardChecks ≠ .success then
      ((p.pdExecuteHardReset now).pdTransmit .hardReset 0 []).2
    else p
  let p := if evt.updateDualRole then p.pdUpdateDualRoleConfig else p
  if evt.tcpcReset then p.tcpcResetEvent else p

/-- The board finds no fault, and no event is ever set. -/
theorem checkBoardAndEvents_eq (p : Port) (now : Nat) : p.checkBoardAndEvents now = p := by
  simp [checkBoardAndEvents, pdBoardChecks, evt]

/-- `if (reset) pd[port].task_state = PD_STATE_SOFT_RESET`. -/
def applyReset (p : Port) (reset : Bool) : Port :=
  if reset then p.setTask .softReset else p

/-- Everything ahead of the message of the iteration. -/
def beforeMessage (p : Port) (inp : Input) : Port :=
  ((p.applyReset inp.reset).pdVdmSendStateMachine (inp.time .vdm)).checkBoardAndEvents
    (inp.time .vdm)

/-- `tcpm_get_message` and `handle_request`. -/
def receive (b : Board) (p : Port) (inp : Input) : Port :=
  match inp.message with
  | none => p
  | some m => (p.record (.received m)).handleRequest b (inp.time .message) m

/-- `req_suspend_state`. -/
def applySuspend (p : Port) : Port := if p.pd.reqSuspendState then p.setState .suspended else p

/-- The port as the switch finds it. -/
def beforeSwitch (b : Board) (p : Port) (inp : Input) : Port :=
  ((p.beforeMessage inp).receive b inp).applySuspend

/-- `switch (this_state)`. -/
def runState (b : Board) (p : Port) (inp : Input) : Port :=
  match p.pd.taskState with
  | .disabled => p
  | .suspended => p.suspended
  | .snkDisconnected => p.snkDisconnected inp
  | .snkDisconnectedDebounce => p.snkDisconnectedDebounce inp
  | .snkHardResetRecover => p.snkHardResetRecover inp
  | .snkDiscovery => p.snkDiscovery inp
  | .snkRequested => p.snkRequested inp
  | .snkTransition => p.snkTransition inp
  | .snkReady => p.snkReady
  | .snkSwapInit => p.snkSwapInit inp
  | .snkSwapSnkDisable => p.snkSwapSnkDisable
  | .snkSwapSrcDisable => p.snkSwapSrcDisable inp
  | .snkSwapStandby => p.snkSwapStandby inp
  | .snkSwapComplete => p.snkSwapComplete
  | .srcDisconnected => p.srcDisconnected inp
  | .srcDisconnectedDebounce => p.srcDisconnectedDebounce inp
  | .srcHardResetRecover => p.srcHardResetRecover inp
  | .srcStartup => p.srcStartup inp
  | .srcDiscovery => p.srcDiscovery b inp
  | .srcNegociate => p.srcNegociate inp
  | .srcAccepted => p.srcAccepted inp
  | .srcPowered => p.srcPowered inp
  | .srcTransition => p.srcTransition
  | .srcReady => p.srcReady b
  | .srcGetSinkCap => p.srcGetSinkCap inp
  | .drSwap => p.drSwap inp
  | .srcSwapInit => p.srcSwapInit inp
  | .srcSwapSnkDisable => p.srcSwapSnkDisable inp
  | .srcSwapSrcDisable => p.srcSwapSrcDisable inp
  | .srcSwapStandby => p.srcSwapStandby inp
  | .softReset => p.softReset inp
  | .hardResetSend => p.hardResetSend inp
  | .hardResetExecute => p.hardResetExecute inp

/-- The state timeout after the switch. -/
def checkTimeout (p : Port) (now : Nat) : Port :=
  if p.pd.timeout ≠ 0 ∧ p.pd.timeout ≤ now then p.setState p.pd.timeoutState else p

/-- The detach of a sink, seen by a source as an open CC line. -/
def checkSourceDetach (p : Port) (inp : Input) : Port :=
  if p.pd.powerRole = .source then
    let p := p.tcpmGetCc inp.ccTail
    let p := if p.pd.polarity then p.modifySt fun st => { st with cc1 := st.cc2 } else p
    if p.st.cc1 = .open then
      let p := (p.record .detach).setState .srcDisconnected
      if pdTrySrcEnable then
        let p := (p.setPowerRole .sink).tcpmSetCc .rd
        let p := p.modifyPd fun pd => { pd with trySrcMarker := inp.time .tail + pdTTryWait }
        let p := p.setState .snkDisconnected
        p.setFlags { p.pd.flags with trySrc := true }
      else p
    else p
  else p

/-- The detach of a source, seen by a sink as missing VBUS. -/
def checkSinkDetach (p : Port) : Port :=
  if p.pd.powerRole = .sink ∧ ¬ pdIsVbusPresent ∧ p.pd.taskState ≠ .snkHardResetRecover ∧
      p.pd.taskState ≠ .hardResetExecute then
    (p.record .detach).setState .snkDisconnected
  else p

/-- VBUS always counts as present, so no sink ever detaches. -/
theorem checkSinkDetach_eq (p : Port) : p.checkSinkDetach = p := by
  simp [checkSinkDetach, pdIsVbusPresent]

/-- The tail of the iteration: `last_state` becomes the state that ran, the
timer may fire, and a connected port that is not swapping looks for a detach. -/
def finish (p : Port) (thisState : PdState) (inp : Input) : Port :=
  let p := (p.setLast thisState).checkTimeout (inp.time .tail)
  if ¬ p.pdIsConnected ∨ p.pdIsPowerSwapping then p
  else (p.checkSourceDetach inp).checkSinkDetach

/-- `pd_run_state_machine`. -/
def pdRunStateMachine (b : Board) (p : Port) (inp : Input) : Port :=
  let p := p.beforeSwitch b inp
  (p.runState b inp).finish p.pd.taskState inp

/-- `pd_init`. -/
def pdInit (p : Port) : Port :=
  let init := p.pdPowerSupplyReset.tcpmInit
  let thisState := if init.1 ≠ .success then .suspended else .snkDisconnected
  let p := (init.2.setFlags .zero).tcpmSetRxEnable false
  let p := p.setPowerRole .sink
  let p := (p.modifyPd fun pd => { pd with vdmState := .done }).setState thisState
  ((p.tcpmSelectRpValue .usb).tcpmSetCc .rd).pdSetInputCurrentLimit 0 0

end Port

end UsbPd
