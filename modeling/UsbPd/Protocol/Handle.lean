import UsbPd.Protocol.Vdm

/-!
# Received messages

`handle_request` drops a message while the port is not connected and hands it
to `handle_data_request` or `handle_ctrl_request` by its object count. Both
dispatch on the message type first; each case below is one `case` of theirs.
-/

namespace UsbPd

namespace Port

/-! Data messages. -/

/-- `PD_DATA_SOURCE_CAP`. The Request goes out before the callback of the sketch
learns the new number of capabilities. -/
def handleSourceCap (p : Port) (payload : List Word) : Port :=
  if p.pd.taskState = .snkDiscovery ∨ p.pd.taskState = .snkTransition ∨
      p.pd.taskState = .snkReady then
    let p := p.setFlags { p.pd.flags with previousPdConn := true }
    let p := p.pdUpdatePdoFlags (firstObject payload)
    let p := p.pdProcessSourceCap payload
    let p := (p.pdSendRequestMsg true).2
    p.pdProcessSourceCapCallback payload.length
  else p

/-- The acceptable case of `PD_DATA_REQUEST`. -/
def acceptRequest (p : Port) (rdo : Word) : Port :=
  let sent := p.sendControl .accept
  if sent.1 < 0 then sent.2
  else
    let p := sent.2.record .contractAgreed
    let p := p.setFlags { p.pd.flags with explicitContract := true }
    let p := p.modifyPd fun pd => { pd with requestedIdx := rdoPos rdo }
    p.setState .srcAccepted

/-- `PD_DATA_REQUEST`: a request that is malformed, cannot be satisfied or
reaches a sink is rejected, and the port goes to `PD_STATE_SRC_READY`. -/
def handleRequestMsg (b : Board) (p : Port) (payload : List Word) : Port :=
  if p.pd.powerRole = .source ∧ payload.length = 1 ∧
      pdCheckRequestedVoltage b (firstObject payload) = .success then
    p.acceptRequest (firstObject payload)
  else (p.sendControl .reject).2.setState .srcReady

/-- `PD_DATA_BIST`: only carrier mode 2, and only in a READY state. -/
def handleBist (p : Port) (payload : List Word) : Port :=
  if p.pd.taskState = p.readyReturnState ∧ bistCarrierMode2 (firstObject payload) then
    let p := (p.pdTransmit .bistMode2 0 []).2
    p.setState (p.dualRoleIfElse .snkDisconnected .srcDisconnected)
  else p

/-- `PD_DATA_SINK_CAP`. -/
def handleSinkCap (p : Port) (payload : List Word) : Port :=
  let p := p.setFlags { p.pd.flags with snkCapRecvd := true }
  let p := p.pdUpdatePdoFlags (firstObject payload)
  if p.pd.taskState = .srcGetSinkCap then p.setState .srcReady else p

/-- `handle_data_request`. -/
def handleDataRequest (b : Board) (p : Port) (now : Nat) (m : PdMsg) : Port :=
  match DataMsgType.ofField (headerType m.head) with
  | some .sourceCap => p.handleSourceCap m.payload
  | some .request => p.handleRequestMsg b m.payload
  | some .bist => p.handleBist m.payload
  | some .sinkCap => p.handleSinkCap m.payload
  | some .vendorDef => p.handleVdmRequest now m.payload
  | none => p

/-! Control messages. -/

/-- `PD_CTRL_GET_SOURCE_CAP`. -/
def handleGetSourceCap (b : Board) (p : Port) : Port :=
  let sent := p.sendSourceCap b
  if 0 ≤ sent.1 ∧ sent.2.pd.taskState = .srcDiscovery then sent.2.setState .srcNegociate
  else sent.2

/-- `PD_CTRL_PS_RDY`. -/
def handlePsRdy (p : Port) : Port :=
  if p.pd.taskState = .snkSwapSrcDisable then p.setState .snkSwapStandby
  else if p.pd.taskState = .srcSwapStandby then
    let p := p.resetMsgId.setPowerRole .sink
    p.pdUpdateRoles.setState .snkDiscovery
  else if p.pd.taskState = .snkDiscovery then p.setState .hardResetSend
  else if p.pd.taskState = .snkSwapStandby then p
  else if p.pd.powerRole = .sink then
    let p := p.setState .snkReady
    p.pdSetInputCurrentLimit p.pd.currLimit p.pd.supplyVoltage
  else p

/-- `PD_CTRL_REJECT` and `PD_CTRL_WAIT`. -/
def handleRejectWait (p : Port) (now : Nat) (wait : Bool) : Port :=
  if p.pd.taskState = .drSwap then p.setState p.readyReturnState
  else if p.pd.taskState = .srcSwapInit then p.setState .srcReady
  else if p.pd.taskState = .snkSwapInit then p.setState .snkReady
  else if p.pd.taskState = .snkRequested then
    if p.pd.flags.explicitContract then
      if wait then
        (p.modifyPd fun pd => { pd with newPowerRequest := true, prevRequestMv := 0 }).setStateTimeout
          (now + pdTSinkRequest) .snkReady
      else p.setState .snkReady
    else p.setState .snkDiscovery
  else p

/-- `PD_CTRL_ACCEPT`. -/
def handleAccept (p : Port) : Port :=
  if p.pd.taskState = .softReset then
    (p.setFlags { p.pd.flags with vbusNeverLow := false }).executeSoftReset
  else if p.pd.taskState = .drSwap then
    let p := p.pdDrSwap
    p.setState p.readyReturnState
  else if p.pd.taskState = .srcSwapInit then
    let p := p.record .powerSwapAccepted
    (p.setFlags { p.pd.flags with explicitContract := false }).setState .srcSwapSnkDisable
  else if p.pd.taskState = .snkSwapInit then
    let p := p.record .powerSwapAccepted
    (p.setFlags { p.pd.flags with explicitContract := false }).setState .snkSwapSnkDisable
  else if p.pd.taskState = .snkRequested then
    let p := p.record .contractAgreed
    (p.setFlags { p.pd.flags with explicitContract := true }).setState .snkTransition
  else p

/-- `PD_CTRL_SOFT_RESET`. -/
def handleSoftReset (p : Port) : Port := (p.executeSoftReset.sendControl .accept).2

/-- `PD_CTRL_PR_SWAP`. -/
def handlePrSwap (p : Port) : Port :=
  if pdCheckPowerSwap then
    let p := (p.sendControl .accept).2.record .powerSwapAccepted
    let p := p.setFlags { p.pd.flags with checkPrRole := false }
    p.setState (p.dualRoleIfElse .snkSwapSnkDisable .srcSwapSnkDisable)
  else (p.sendControl .reject).2

/-- `PD_CTRL_DR_SWAP`. -/
def handleDrSwap (p : Port) : Port :=
  if pdCheckDataSwap then
    let p := p.setFlags { p.pd.flags with checkDrRole := false }
    let sent := p.sendControl .accept
    if 0 ≤ sent.1 then sent.2.pdDrSwap else sent.2
  else (p.sendControl .reject).2

/-- `handle_ctrl_request`. -/
def handleCtrlRequest (b : Board) (p : Port) (now : Nat) (m : PdMsg) : Port :=
  match CtrlMsgType.ofField (headerType m.head) with
  | some .goodCrc => p
  | some .ping => p
  | some .getSourceCap => p.handleGetSourceCap b
  | some .getSinkCap => p.sendSinkCap b
  | some .gotoMin => p
  | some .psRdy => p.handlePsRdy
  | some .reject => p.handleRejectWait now false
  | some .wait => p.handleRejectWait now true
  | some .accept => p.handleAccept
  | some .softReset => p.handleSoftReset
  | some .prSwap => p.handlePrSwap
  | some .drSwap => p.handleDrSwap
  | some .vconnSwap => (p.sendControl .reject).2
  | none => p

/-- `handle_request`. -/
def handleRequest (b : Board) (p : Port) (now : Nat) (m : PdMsg) : Port :=
  if ¬ p.pdIsConnected then p
  else if headerCnt m.head ≠ 0 then p.handleDataRequest b now m
  else p.handleCtrlRequest b now m

end Port

end UsbPd
