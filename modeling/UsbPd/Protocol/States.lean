import UsbPd.Protocol.Handle

/-!
# The states of the port

One definition for each case of the switch of `pd_run_state_machine`. Most
waiting states arm their timer when they are entered and do nothing else:
`armOnEntry` is that case, and the test for entry compares the state with the
one that ran last.
-/

namespace UsbPd

/-- The points of one iteration that read the clock, in program order. -/
inductive Site where
  | vdm
  | message
  | switch
  | switchNext
  | switchLast
  | tail
  deriving DecidableEq, Repr

/-- What one iteration gets from outside: the `reset` argument, the message in
the receive FIFO, the measurements of the two `tcpm_get_cc` calls and the clock
readings. -/
structure Input where
  reset : Bool
  message : Option PdMsg
  cc : CcReading
  ccTail : CcReading
  time : Site → Nat

/-- `cc_is_rp`. -/
def ccIsRp (cc : CcVoltage) : Bool := cc = .snkDef ∨ cc = .snk15 ∨ cc = .snk30

/-- `get_snk_polarity`. -/
def getSnkPolarity (cc1 cc2 : CcVoltage) : Bool := cc1.toNat < cc2.toNat

/-- `get_typec_current_limit`; bit 31 is `TYPEC_CURRENT_DTS_MASK`. -/
def getTypecCurrentLimit (polarity : Bool) (cc1 cc2 : CcVoltage) : Word :=
  let cc := if polarity then cc2 else cc1
  let ccAlt := if polarity then cc1 else cc2
  let charge : Word :=
    if cc = .snk30 ∧ ccAlt ≠ .snk15 then 3000 else if cc = .snk15 then 1500 else 0
  if ccIsRp ccAlt then charge ||| 1 <<< 31 else charge

namespace Port

/-- `last_state != task_state`: the state is entered in this iteration. -/
def entering (p : Port) : Bool := p.pd.lastState ≠ p.pd.taskState

/-- Arm the timer when the state is entered. -/
def armOnEntry (p : Port) (timeout : Nat) (timeoutState : PdState) : Port :=
  if p.entering then p.setStateTimeout timeout timeoutState else p

/-- `PD_STATE_SRC_DISCONNECTED`. -/
def srcDisconnected (p : Port) (inp : Input) : Port :=
  let p := p.tcpmGetCc inp.cc
  if (p.st.cc1 = .rd ∨ p.st.cc2 = .rd) ∨ (p.st.cc1 = .ra ∧ p.st.cc2 = .ra) then
    (p.modifyPd fun pd => { pd with ccState := .none }).setState .srcDisconnectedDebounce
  else if (p.pd.flags.trySrc ∧ p.pd.trySrcMarker ≤ inp.time .switch) ∨
      (¬ p.pd.flags.trySrc ∧ p.st.drpState ≠ .forceSource ∧ p.st.drpState ≠ .freeze ∧
        p.st.nextRoleSwap ≤ inp.time .switch) then
    let p := ((p.setPowerRole .sink).setState .snkDisconnected).tcpmSetCc .rd
    let p := p.modifySt fun st => { st with nextRoleSwap := inp.time .switchNext + pdTDrpSnk }
    p.modifyPd fun pd => { pd with trySrcMarker := inp.time .switchLast + pdTTryWait }
  else p

/-- The attach of a sink, at the end of `PD_STATE_SRC_DISCONNECTED_DEBOUNCE`. -/
def attachSink (p : Port) (newCcState : CcState) : Port :=
  let p := p.modifyPd fun pd => { pd with polarity := decide (p.st.cc1 ≠ .rd) }
  let p := (p.tcpmSetPolarity p.pd.polarity).pdSetDataRole .dfp
  let p := if newCcState = .debugAcc then p.setFlags { p.pd.flags with tsDtsPartner := true } else p
  let ready := p.pdSetPowerSupplyReady
  if ready.1 ≠ .success then ready.2
  else
    let p := if pdCommIsEnabled then ready.2.tcpmSetRxEnable true else ready.2
    let p := p.setFlags { p.pd.flags with checkPrRole := true, checkDrRole := true }
    (p.modifySt fun st => { st with hardResetCount := 0 }).setState .srcStartup

/-- What the CC lines say in `PD_STATE_SRC_DISCONNECTED_DEBOUNCE`. -/
def srcCcState (p : Port) : Option CcState :=
  if p.st.cc1 = .rd ∧ p.st.cc2 = .rd then some .debugAcc
  else if p.st.cc1 = .rd ∨ p.st.cc2 = .rd then some .ufpAttached
  else if p.st.cc1 = .ra ∧ p.st.cc2 = .ra then some .audioAcc
  else none

/-- `PD_STATE_SRC_DISCONNECTED_DEBOUNCE`. -/
def srcDisconnectedDebounce (p : Port) (inp : Input) : Port :=
  let p := p.tcpmGetCc inp.cc
  match p.srcCcState with
  | none => p.setState .srcDisconnected
  | some newCcState =>
    if ¬ p.pd.flags.trySrc ∧ newCcState ≠ p.pd.ccState then
      p.modifyPd fun pd => { pd with
        ccDebounce := inp.time .switch + pdTCcDebounce, ccState := newCcState }
    else if ¬ p.pd.flags.trySrc ∧ inp.time .switch < p.pd.ccDebounce then p
    else if newCcState = .ufpAttached ∨ newCcState = .debugAcc then p.attachSink newCcState
    else p

/-- `PD_STATE_SRC_HARD_RESET_RECOVER`. -/
def srcHardResetRecover (p : Port) (inp : Input) : Port :=
  if inp.time .switch < p.pd.srcRecover then p
  else
    let ready := p.pdSetPowerSupplyReady
    if ready.1 ≠ .success then ready.2.setState .srcDisconnected else ready.2.setState .srcStartup

/-- `PD_STATE_SRC_STARTUP`. -/
def srcStartup (p : Port) (inp : Input) : Port :=
  if p.entering then
    let p := (p.setFlags { p.pd.flags with checkIdentity := true }).resetMsgId
    (p.modifySt fun st => { st with capsCount := 0, snkCapCount := 0 }).setStateTimeout
      (inp.time .switch + pdPowerSupplyTurnOnDelay) .srcDiscovery
  else p

/-- `PD_STATE_SRC_DISCOVERY`. -/
def srcDiscovery (b : Board) (p : Port) (inp : Input) : Port :=
  let p := if p.entering ∧ p.pd.flags.previousPdConn then
      p.setStateTimeout (inp.time .switch + pdTNoResponse)
        (if p.st.hardResetCount < pdHardResetCount then .hardResetSend else .srcDisconnected)
    else p
  if p.st.capsCount < pdCapsCount then
    let sent := p.sendSourceCap b
    if 0 ≤ sent.1 then
      let p := sent.2.setState .srcNegociate
      let p := p.modifySt fun st => { st with hardResetCount := 0, capsCount := 0 }
      p.setFlags { p.pd.flags with previousPdConn := true }
    else sent.2.modifySt fun st => { st with capsCount := st.capsCount + 1 }
  else p

/-- `PD_STATE_SRC_NEGOCIATE`. -/
def srcNegociate (p : Port) (inp : Input) : Port :=
  p.armOnEntry (inp.time .switch + pdTSenderResponse) .hardResetSend

/-- `PD_STATE_SRC_ACCEPTED`. -/
def srcAccepted (p : Port) (inp : Input) : Port :=
  p.armOnEntry (inp.time .switch + pdTSinkTransition) .srcPowered

/-- `PD_STATE_SRC_POWERED`. -/
def srcPowered (p : Port) (inp : Input) : Port :=
  if p.entering then
    (p.pdTransitionVoltage p.pd.requestedIdx).setStateTimeout
      (inp.time .switch + pdPowerSupplyTurnOnDelay) .srcTransition
  else p

/-- `PD_STATE_SRC_TRANSITION`. -/
def srcTransition (p : Port) : Port :=
  let sent := p.sendControl .psRdy
  if 0 ≤ sent.1 then sent.2.setState .srcReady else sent.2.setState .srcDisconnected

/-- The end of `PD_STATE_SRC_READY`: ping the sink when asked to. -/
def srcPing (p : Port) : Port :=
  if ¬ p.pd.flags.pingEnabled then p
  else
    let sent := p.sendControl .ping
    if 0 ≤ sent.1 then sent.2 else sent.2.setState .softReset

/-- The policy checks of the READY states; `none` when none was pending. -/
def readyChecks (p : Port) : Option Port :=
  if p.pd.flags.checkPrRole then
    some (p.pdCheckPrRole.setFlags { p.pd.flags with checkPrRole := false })
  else if p.pd.flags.checkDrRole then
    some (p.pdCheckDrRole.setFlags { p.pd.flags with checkDrRole := false })
  else if p.pd.dataRole = .dfp ∧ p.pd.flags.checkIdentity then
    let p := p.pdSendVdm usbSidPd cmdDiscoverIdent []
    some (p.setFlags { p.pd.flags with checkIdentity := false })
  else none

/-- `PD_STATE_SRC_READY`. -/
def srcReady (b : Board) (p : Port) : Port :=
  if evt.rx ∨ p.pd.vdmState = .busy then p
  else if p.pd.flags.updateSrcCaps then
    let sent := p.sendSourceCap b
    if 0 ≤ sent.1 then
      let p := sent.2.setState .srcNegociate
      p.setFlags { p.pd.flags with updateSrcCaps := false }
    else sent.2
  else if ¬ p.pd.flags.snkCapRecvd ∧ toInt32 (p.st.snkCapCount + 1) ≤ pdSnkCapRetries then
    let p := p.modifySt fun st => { st with snkCapCount := toInt32 (st.snkCapCount + 1) }
    (p.sendControl .getSinkCap).2.setState .srcGetSinkCap
  else
    let p := if p.pd.flags.snkCapRecvd then p
      else p.modifySt fun st => { st with snkCapCount := toInt32 (st.snkCapCount + 1) }
    p.readyChecks.getD p.srcPing

/-- `PD_STATE_SRC_GET_SINK_CAP`. -/
def srcGetSinkCap (p : Port) (inp : Input) : Port :=
  p.armOnEntry (inp.time .switch + pdTSenderResponse) .srcReady

/-- The swap states that send a request when entered: on failure a soft reset
for a missing GoodCRC, else back to `back`. -/
def sendOnEntry (p : Port) (inp : Input) (type : CtrlMsgType) (back : PdState) : Port :=
  if p.entering then
    let sent := p.sendControl type
    if sent.1 < 0 then sent.2.setState (if sent.1 = -1 then .softReset else back)
    else sent.2.setStateTimeout (inp.time .switch + pdTSenderResponse) back
  else p

/-- `PD_STATE_DR_SWAP`. -/
def drSwap (p : Port) (inp : Input) : Port := p.sendOnEntry inp .drSwap p.readyReturnState

/-- `PD_STATE_SRC_SWAP_INIT`. -/
def srcSwapInit (p : Port) (inp : Input) : Port := p.sendOnEntry inp .prSwap .srcReady

/-- `PD_STATE_SRC_SWAP_SNK_DISABLE`. -/
def srcSwapSnkDisable (p : Port) (inp : Input) : Port :=
  p.armOnEntry (inp.time .switch + pdTSinkTransition) .srcSwapSrcDisable

/-- `PD_STATE_SRC_SWAP_SRC_DISABLE`. -/
def srcSwapSrcDisable (p : Port) (inp : Input) : Port :=
  if p.entering then
    p.pdPowerSupplyReset.setStateTimeout (inp.time .switch + pdPowerSupplyTurnOffDelay)
      .srcSwapStandby
  else p

/-- `PD_STATE_SRC_SWAP_STANDBY`. -/
def srcSwapStandby (p : Port) (inp : Input) : Port :=
  if p.entering then
    let sent := p.sendControl .psRdy
    if sent.1 < 0 then sent.2.setState .srcDisconnected
    else
      let p := (sent.2.tcpmSetCc .rd).setPowerRole .sink
      p.setStateTimeout (inp.time .switch + pdTPsSourceOn) .snkDisconnected
  else p

/-- `PD_STATE_SUSPENDED`: the driver cannot release the chip, so the port goes to
its default state. -/
def suspended (p : Port) : Port :=
  let p := p.modifyPd fun pd => { pd with reqSuspendState := false }
  if p.chip.release ≠ .errorUnimplemented ∧ p.tcpmInit.1 ≠ .success then p
  else p.setState .snkDisconnected

/-- `PD_STATE_SNK_DISCONNECTED`. -/
def snkDisconnected (p : Port) (inp : Input) : Port :=
  let p := p.tcpmGetCc inp.cc
  if p.st.cc1 ≠ .open ∨ p.st.cc2 ≠ .open then
    let p := p.modifyPd fun pd => { pd with
      ccState := .none, ccDebounce := inp.time .switch + pdTCcDebounce }
    (p.modifySt fun st => { st with hardResetCount := 0 }).setState .snkDisconnectedDebounce
  else if p.pd.flags.trySrc then
    if p.pd.trySrcMarker < inp.time .switch then
      p.setFlags { p.pd.flags with trySrc := false }
    else p
  else if p.st.drpState = .toggleOn ∧ p.st.nextRoleSwap ≤ inp.time .switch then
    let p := ((p.setPowerRole .source).setState .srcDisconnected).tcpmSetCc .rp
    p.modifySt fun st => { st with nextRoleSwap := inp.time .switchNext + pdTDrpSrc }
  else p

/-- The attach of a source, at the end of `PD_STATE_SNK_DISCONNECTED_DEBOUNCE`. -/
def attachSource (p : Port) (newCcState : CcState) : Port :=
  let p := p.modifyPd fun pd => { pd with polarity := getSnkPolarity p.st.cc1 p.st.cc2 }
  let p := (p.tcpmSetPolarity p.pd.polarity).resetMsgId.pdSetDataRole .ufp
  let p := p.modifySt fun st => { st with
      typecCurr := getTypecCurrentLimit p.pd.polarity p.st.cc1 p.st.cc2 }
  let p := if pdCommIsEnabled then p.tcpmSetRxEnable true else p
  if newCcState = .dfpAttached ∨ newCcState = .debugAcc then
    let p := p.setFlags { p.pd.flags with
      checkPrRole := true, checkDrRole := true, checkIdentity := true }
    let p := if newCcState = .debugAcc then p.setFlags { p.pd.flags with tsDtsPartner := true }
      else p
    (p.sendControl .getSourceCap).2.setState .snkDiscovery
  else p

/-- What the CC lines say in `PD_STATE_SNK_DISCONNECTED_DEBOUNCE`. -/
def snkCcState (p : Port) : Option CcState :=
  if ccIsRp p.st.cc1 ∧ ccIsRp p.st.cc2 then some .debugAcc
  else if ccIsRp p.st.cc1 ∨ ccIsRp p.st.cc2 then some .dfpAttached
  else none

/-- `PD_STATE_SNK_DISCONNECTED_DEBOUNCE`. -/
def snkDisconnectedDebounce (p : Port) (inp : Input) : Port :=
  let p := p.tcpmGetCc inp.cc
  match p.snkCcState with
  | none => p.setState .snkDisconnected
  | some newCcState =>
    if newCcState ≠ p.pd.ccState then
      p.modifyPd fun pd => { pd with
        ccDebounce := inp.time .switch + pdTCcDebounce, ccState := newCcState }
    else if inp.time .switch < p.pd.ccDebounce ∨ ¬ pdIsVbusPresent then p
    else if pdTrySrcEnable ∧ ¬ p.pd.flags.trySrc then
      let p := p.modifyPd fun pd => { pd with trySrcMarker := inp.time .switchNext + pdTTrySrc }
      let p := ((p.setPowerRole .source).tcpmSetCc .rp).setState .srcDisconnected
      p.setFlags { p.pd.flags with trySrc := true }
    else p.attachSource newCcState

/-- `PD_STATE_SNK_HARD_RESET_RECOVER`. -/
def snkHardResetRecover (p : Port) (inp : Input) : Port :=
  let p := if p.entering then
      let p := p.setFlags { p.pd.flags with checkIdentity := true }
      (p.modifySt fun st => { st with snkHardResetVbusOff := false }).setStateTimeout
        (inp.time .switch + pdTSafe0v)
        (if p.st.hardResetCount < pdHardResetCount then .hardResetSend else .snkDiscovery)
    else p
  let p := if ¬ pdIsVbusPresent ∧ ¬ p.st.snkHardResetVbusOff then
      (p.modifySt fun st => { st with snkHardResetVbusOff := true }).setStateTimeout
        (inp.time .switchNext + pdTSrcRecoverMax + pdTSrcTurnOn) .snkDisconnected
    else p
  if pdIsVbusPresent ∧ p.st.snkHardResetVbusOff then p.setState .snkDiscovery else p

/-- The timer of `PD_STATE_SNK_DISCOVERY`. -/
def armSnkDiscovery (p : Port) (inp : Input) : Port :=
  if p.pd.flags.vbusNeverLow then
    p.setStateTimeout (inp.time .switch + pdTSinkWaitCap) .softReset
  else if p.st.hardResetCount < pdHardResetCount then
    p.setStateTimeout (inp.time .switch + pdTSinkWaitCap) .hardResetSend
  else if p.pd.flags.previousPdConn then
    p.setStateTimeout (inp.time .switch + pdTNoResponse) .snkDisconnected
  else p

/-- The watch of `PD_STATE_SNK_DISCOVERY` over the Type-C current, which takes
over a new value at the second reading that differs. -/
def updateTypecCurr (p : Port) (inp : Input) : Port :=
  let p := p.tcpmGetCc inp.cc
  let limit := getTypecCurrentLimit p.pd.polarity p.st.cc1 p.st.cc2
  if p.st.typecCurr ≠ limit then
    let p := if p.st.typecCurrChange then p.modifySt fun st => { st with typecCurr := limit } else p
    p.modifySt fun st => { st with typecCurrChange := ¬ st.typecCurrChange }
  else p.modifySt fun st => { st with typecCurrChange := false }

/-- `PD_STATE_SNK_DISCOVERY`. -/
def snkDiscovery (p : Port) (inp : Input) : Port :=
  let p := if p.entering ∧ pdCommIsEnabled then
      let p := p.armSnkDiscovery inp
      if p.pd.lastState ≠ .snkDisconnectedDebounce then
        p.modifySt fun st => { st with typecCurr := 0 }
      else p
    else p
  p.updateTypecCurr inp

/-- `PD_STATE_SNK_REQUESTED`. -/
def snkRequested (p : Port) (inp : Input) : Port :=
  if p.entering then
    (p.modifySt fun st => { st with hardResetCount := 0 }).setStateTimeout
      (inp.time .switch + pdTSenderResponse) .hardResetSend
  else p

/-- `PD_STATE_SNK_TRANSITION`. -/
def snkTransition (p : Port) (inp : Input) : Port :=
  p.armOnEntry (inp.time .switch + pdTPsTransition) .hardResetSend

/-- `PD_STATE_SNK_READY`. -/
def snkReady (p : Port) : Port :=
  if evt.rx ∨ p.pd.vdmState = .busy then p
  else if p.pd.newPowerRequest then
    let sent := p.pdSendRequestMsg false
    if sent.1 ≠ 0 then sent.2.setState .softReset else sent.2
  else p.readyChecks.getD p

/-- `PD_STATE_SNK_SWAP_INIT`. -/
def snkSwapInit (p : Port) (inp : Input) : Port := p.sendOnEntry inp .prSwap .snkReady

/-- `PD_STATE_SNK_SWAP_SNK_DISABLE`. -/
def snkSwapSnkDisable (p : Port) : Port :=
  (p.pdSetInputCurrentLimit 0 0).setState .snkSwapSrcDisable

/-- `PD_STATE_SNK_SWAP_SRC_DISABLE`. -/
def snkSwapSrcDisable (p : Port) (inp : Input) : Port :=
  p.armOnEntry (inp.time .switch + pdTPsSourceOff) .hardResetSend

/-- `PD_STATE_SNK_SWAP_STANDBY`. -/
def snkSwapStandby (p : Port) (inp : Input) : Port :=
  if p.entering then
    let ready := (p.tcpmSetCc .rp).pdSetPowerSupplyReady
    if ready.1 ≠ .success then (ready.2.tcpmSetCc .rd).setState .snkDisconnected
    else ready.2.setStateTimeout (inp.time .switch + pdPowerSupplyTurnOnDelay) .snkSwapComplete
  else p

/-- `PD_STATE_SNK_SWAP_COMPLETE`. -/
def snkSwapComplete (p : Port) : Port :=
  let sent := p.sendControl .psRdy
  if sent.1 < 0 then ((sent.2.tcpmSetCc .rd).pdPowerSupplyReset).setState .snkDisconnected
  else
    let p := sent.2.modifySt fun st => { st with
      snkCapCount := pdSnkCapRetries + 1, capsCount := 0 }
    let p := p.resetMsgId.setPowerRole .source
    p.pdUpdateRoles.setState .srcDiscovery

/-- `PD_STATE_SOFT_RESET`. -/
def softReset (p : Port) (inp : Input) : Port :=
  if p.entering then
    let sent := p.resetMsgId.sendControl .softReset
    if sent.1 < 0 then sent.2.setState .hardResetSend
    else sent.2.setStateTimeout (inp.time .switch + pdTSenderResponse) .hardResetSend
  else p

/-- The transmission of `PD_STATE_HARD_RESET_SEND`, until it is started once. -/
def sendHardReset (p : Port) (inp : Input) : Port :=
  if p.st.hardResetSent then p
  else
    let sent := p.pdTransmit .hardReset 0 []
    if sent.1 < 0 then sent.2
    else
      let p : Port := sent.2.modifySt fun st => { st with hardResetSent := true }
      if p.pd.powerRole = .source then
        p.setStateTimeout (inp.time .switch + pdTPsHardReset) .hardResetExecute
      else p.setState .hardResetExecute

/-- `PD_STATE_HARD_RESET_SEND`. -/
def hardResetSend (p : Port) (inp : Input) : Port :=
  let p := p.modifySt fun st => { st with
      hardResetCount := toInt32 (p.st.hardResetCount + 1),
      hardResetSent := p.st.hardResetSent && !p.entering }
  let p := if p.pd.lastState = .snkDiscovery ∨
      (p.pd.lastState = .softReset ∧ p.pd.flags.vbusNeverLow) then
      p.setFlags { p.pd.flags with vbusNeverLow := false }
    else p
  p.sendHardReset inp

/-- `PD_STATE_HARD_RESET_EXECUTE`. -/
def hardResetExecute (p : Port) (inp : Input) : Port :=
  let p := if p.pd.lastState = .snkSwapStandby then p.tcpmSetCc .rd else p
  p.pdExecuteHardReset (inp.time .switch)

end Port

end UsbPd
