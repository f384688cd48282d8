import UsbPd.Machine.Refine
import UsbPd.System.Run

/-!
# The control machine

An abstract port that keeps only what the flow of control depends on: the task
state and the state that ran last, the power role, the timer and the state it
leads to, the presented termination, the status a transmission will report, and
what the log says about reception, VBUS, hard resets and the contract. Clock
readings, CC measurements, flags and counters are forgotten, so the machine
answers an event with the list of everything it may do.
-/

namespace UsbPd

/-- What the log says about the port. -/
structure History where
  /-- the last effective `tcpm_set_rx_enable` enabled reception -/
  receiving : Bool
  /-- VBUS was last switched on -/
  vbus : Bool
  /-- hard reset signalling was sent and neither a hard reset nor a detach followed -/
  hardResetPending : Bool
  /-- a contract was agreed on after the last hard reset and power role swap -/
  contract : Bool
  deriving DecidableEq

/-- One entry of the log. -/
def History.note (h : History) : Call → History
  | .rxEnable enable => { h with receiving := enable }
  | .vbus on => { h with vbus := on }
  | .transmit .hardReset _ _ _ => { h with hardResetPending := true }
  | .executeHardReset => { h with hardResetPending := false, contract := false }
  | .detach => { h with hardResetPending := false }
  | .contractAgreed => { h with contract := true }
  | .powerSwapAccepted => { h with contract := false }
  | _ => h

/-- The log read from its oldest entry. -/
def History.ofLog : List Call → History
  | [] => { receiving := false, vbus := false, hardResetPending := false, contract := false }
  | c :: log => (History.ofLog log).note c

/-- The state of the control machine. -/
structure Control where
  task : PdState
  last : PdState
  role : PowerRole
  armed : Bool
  timeoutState : PdState
  /-- `PD_FLAGS_EXPLICIT_CONTRACT` -/
  explicit : Bool
  pullingUp : Bool
  vconn : Bool
  /-- `tx_status` is `TCPC_TX_COMPLETE_SUCCESS` -/
  txOk : Bool
  /-- `hard_reset_count < PD_HARD_RESET_COUNT` -/
  fewResets : Bool
  hardResetSent : Bool
  /-- `req_suspend_state` -/
  suspending : Bool
  history : History
  deriving DecidableEq

/-- `hard_reset_count < PD_HARD_RESET_COUNT`. -/
def fewHardResets (count : Int) : Bool := count < pdHardResetCount

/-- The control part of a port. -/
def Port.control (p : Port) : Control where
  task := p.pd.taskState
  last := p.pd.lastState
  role := p.pd.powerRole
  armed := p.pd.timeout != 0
  timeoutState := p.pd.timeoutState
  explicit := p.pd.flags.explicitContract
  pullingUp := p.chip.pullingUp
  vconn := p.chip.vconnEnabled
  txOk := p.pd.txStatus == .success
  fewResets := fewHardResets p.st.hardResetCount
  hardResetSent := p.st.hardResetSent
  suspending := p.pd.reqSuspendState
  history := .ofLog p.log

/-- A received message, as far as control depends on it. -/
inductive MsgKind where
  | data (type : Option DataMsgType) (acceptable : Bool)
  | ctrl (type : Option CtrlMsgType)
  deriving DecidableEq

/-- A request is acceptable when a source would accept it. -/
def PdMsg.kind (b : Board) (m : PdMsg) : MsgKind :=
  if headerCnt m.head ≠ 0 then
    .data (DataMsgType.ofField (headerType m.head))
      (m.payload.length = 1 ∧ pdCheckRequestedVoltage b (firstObject m.payload) = .success)
  else .ctrl (CtrlMsgType.ofField (headerType m.head))

namespace Control

/-- Add an entry to the log. -/
def note (v : Control) (c : Call) : Control := { v with history := v.history.note c }

def roleIfElse {α : Type*} (v : Control) (sinkClause srcClause : α) : α :=
  v.role.ifElse sinkClause srcClause

def readyReturnState (v : Control) : PdState := v.roleIfElse .snkReady .srcReady

def connected (v : Control) : Bool :=
  if v.task = .disabled then false
  else v.roleIfElse (v.task ≠ .snkDisconnected ∧ v.task ≠ .snkDisconnectedDebounce)
    (v.task ≠ .srcDisconnected ∧ v.task ≠ .srcDisconnectedDebounce)

def powerSwapping (v : Control) : Bool :=
  v.task = .snkSwapSnkDisable ∨ v.task = .snkSwapSrcDisable ∨ v.task = .snkSwapStandby ∨
    v.task = .snkSwapComplete ∨ v.task = .srcSwapSnkDisable ∨ v.task = .srcSwapSrcDisable ∨
    v.task = .srcSwapStandby

def entering (v : Control) : Bool := v.last ≠ v.task

/-- Start the timer. -/
def arm (v : Control) (timeoutState : PdState) : Control :=
  { v with armed := true, timeoutState := timeoutState }

def setRole (v : Control) (role : PowerRole) : Control := { v with role := role }

def setPull (v : Control) (up : Bool) : Control := { v with pullingUp := up }

def setExplicit (v : Control) (explicit : Bool) : Control := { v with explicit := explicit }

def setFew (v : Control) (few : Bool) : Control := { v with fewResets := few }

def setSent (v : Control) (sent : Bool) : Control := { v with hardResetSent := sent }

def setTx (v : Control) (ok : Bool) : Control := { v with txOk := ok }

def setLast (v : Control) (last : PdState) : Control := { v with last := last }

def clearSuspending (v : Control) : Control := { v with suspending := false }

def enterDisconnected (v : Control) : Control :=
  (if v.role = .source then v.note (.vbus false) else v).note (.rxEnable false)

/-- Change the state and stop the timer. -/
def goto (v : Control) (next : PdState) : Control :=
  { v with task := next, armed := false, timeoutState := .disabled }

def setState (v : Control) (next : PdState) : Control :=
  if v.task = next then v.goto next
  else if (v.task = .snkDisconnected ∧ next = .srcDisconnected) ∨
      (v.task = .srcDisconnected ∧ next = .snkDisconnected) then v.goto next
  else if next = .srcDisconnected ∨ next = .snkDisconnected then (v.goto next).enterDisconnected
  else v.goto next

def executeHardReset (v : Control) : Control :=
  let w := (v.note .executeHardReset).setLast .hardResetExecute
  let w := if v.task = .snkSwapStandby ∨ v.task = .snkSwapComplete then
      (w.setPull false).note (.vbus false)
    else w
  if v.role = .sink then w.setState .snkHardResetRecover
  else (w.note (.vbus false)).setState .srcHardResetRecover

def executeSoftReset (v : Control) : Control :=
  v.setState (v.roleIfElse .snkDiscovery .srcDiscovery)

/-- `handle_data_request`. -/
def handleData (v : Control) (acceptable : Bool) : Option DataMsgType → List Control
  | some .sourceCap =>
    if (v.task = .snkDiscovery ∨ v.task = .snkTransition ∨ v.task = .snkReady) ∧ v.txOk then
      [v.setState .snkRequested]
    else [v]
  | some .request =>
    if v.role = .source ∧ acceptable then
      if v.txOk then [((v.note .contractAgreed).setExplicit true).setState .srcAccepted]
      else [v]
    else [v.setState .srcReady]
  | some .bist =>
    if v.task = v.readyReturnState then
      [v, v.setState (v.roleIfElse .snkDisconnected .srcDisconnected)]
    else [v]
  | some .sinkCap => if v.task = .srcGetSinkCap then [v.setState .srcReady] else [v]
  | some .vendorDef => [v]
  | none => [v]

/-- `PD_CTRL_PS_RDY`. -/
def handlePsRdy (v : Control) : Control :=
  if v.task = .snkSwapSrcDisable then v.setState .snkSwapStandby
  else if v.task = .srcSwapStandby then (v.setRole .sink).setState .snkDiscovery
  else if v.task = .snkDiscovery then v.setState .hardResetSend
  else if v.task = .snkSwapStandby then v
  else if v.role = .sink then v.setState .snkReady
  else v

/-- `PD_CTRL_REJECT` and `PD_CTRL_WAIT`. -/
def handleRejectWait (v : Control) (wait : Bool) : Control :=
  if v.task = .drSwap then v.setState v.readyReturnState
  else if v.task = .srcSwapInit then v.setState .srcReady
  else if v.task = .snkSwapInit then v.setState .snkReady
  else if v.task = .snkRequested then
    if v.explicit then if wait then v.arm .snkReady else v.setState .snkReady
    else v.setState .snkDiscovery
  else v

/-- `PD_CTRL_ACCEPT`. -/
def handleAccept (v : Control) : Control :=
  if v.task = .softReset then v.executeSoftReset
  else if v.task = .drSwap then v.setState v.readyReturnState
  else if v.task = .srcSwapInit then
    ((v.note .powerSwapAccepted).setExplicit false).setState .srcSwapSnkDisable
  else if v.task = .snkSwapInit then
    ((v.note .powerSwapAccepted).setExplicit false).setState .snkSwapSnkDisable
  else if v.task = .snkRequested then
    ((v.note .contractAgreed).setExplicit true).setState .snkTransition
  else v

/-- `handle_ctrl_request`. -/
def handleCtrl (v : Control) : Option CtrlMsgType → Control
  | some .getSourceCap =>
    if v.txOk ∧ v.task = .srcDiscovery then v.setState .srcNegociate else v
  | some .psRdy => v.handlePsRdy
  | some .reject => v.handleRejectWait false
  | some .wait => v.handleRejectWait true
  | some .accept => v.handleAccept
  | some .softReset => v.executeSoftReset
  | _ => v

/-- `handle_request`. -/
def handle (v : Control) (kind : MsgKind) : List Control :=
  if ¬ v.connected then [v]
  else match kind with
    | .data type acceptable => v.handleData acceptable type
    | .ctrl type => [v.handleCtrl type]

def applyReset (v : Control) (reset : Bool) : Control :=
  if reset then { v with task := .softReset } else v

/-- The message of an iteration. -/
def receive (v : Control) : Option MsgKind → List Control
  | none => [v]
  | some kind => v.handle kind

def applySuspend (v : Control) : Control := if v.suspending then v.setState .suspended else v

/-- The timer of a waiting state. -/
def armOnEntry (v : Control) (timeoutState : PdState) : Control :=
  if v.entering then v.arm timeoutState else v

/-- A swap state that sends its request on entry. -/
def sendOnEntry (v : Control) (back : PdState) : Control :=
  if v.entering then if v.txOk then v.arm back else v.setState .softReset else v

def attachSink (v : Control) : Control :=
  (((v.note (.vbus true)).note (.rxEnable true)).setFew true).setState .srcStartup

def attachSource (v : Control) : Control := (v.note (.rxEnable true)).setState .snkDiscovery

/-- Send the hard reset, once in the state. -/
def sendHardReset (v : Control) : Control :=
  if v.hardResetSent then v
  else
    let w := v.note (.transmit .hardReset 0 [] 0)
    if ¬ v.txOk then w
    else if v.role = .source then (w.setSent true).arm .hardResetExecute
    else (w.setSent true).setState .hardResetExecute

/-- `PD_STATE_HARD_RESET_SEND`; the count may wrap, so both outcomes of its
comparison are possible. -/
def hardResetSend (v : Control) (few : Bool) : Control :=
  ((v.setFew few).setSent (v.hardResetSent && !v.entering)).sendHardReset

/-- The switch over the state. -/
def runState (v : Control) : List Control :=
  match v.task with
  | .disabled => [v]
  | .suspended => [v.clearSuspending.setState .snkDisconnected]
  | .snkDisconnected =>
    [v, (v.setFew true).setState .snkDisconnectedDebounce,
      ((v.setRole .source).setState .srcDisconnected).setPull true]
  | .snkDisconnectedDebounce =>
    [v, v.setState .snkDisconnected] ++
      (if ¬ v.pullingUp ∨ v.vconn then [v.attachSource] else [])
  | .snkHardResetRecover =>
    let w := v.armOnEntry (if v.fewResets then .hardResetSend else .snkDiscovery)
    [w, w.setState .snkDiscovery]
  | .snkDiscovery =>
    if v.entering then
      [v.arm .softReset] ++
        (if v.fewResets then [v.arm .hardResetSend] else [v, v.arm .snkDisconnected])
    else [v]
  | .snkRequested => [if v.entering then (v.setFew true).arm .hardResetSend else v]
  | .snkTransition => [v.armOnEntry .hardResetSend]
  | .snkReady => [v] ++ (if v.txOk then [v.setState .snkRequested] else [v.setState .softReset])
  | .snkSwapInit => [v.sendOnEntry .snkReady]
  | .snkSwapSnkDisable => [v.setState .snkSwapSrcDisable]
  | .snkSwapSrcDisable => [v.armOnEntry .hardResetSend]
  | .snkSwapStandby =>
    [if v.entering then ((v.setPull true).note (.vbus true)).arm .snkSwapComplete else v]
  | .snkSwapComplete =>
    [if v.txOk then (v.setRole .source).setState .srcDiscovery
      else ((v.setPull false).note (.vbus false)).setState .snkDisconnected]
  | .srcDisconnected =>
    [v, ((v.setRole .sink).setState .snkDisconnected).setPull false] ++
      (if v.pullingUp then [v.setState .srcDisconnectedDebounce] else [])
  | .srcDisconnectedDebounce =>
    [v, v.setState .srcDisconnected] ++ (if v.pullingUp then [v.attachSink] else [])
  | .srcHardResetRecover => [v, (v.note (.vbus true)).setState .srcStartup]
  | .srcStartup => [v.armOnEntry .srcDiscovery]
  | .srcDiscovery =>
    [v, v.armOnEntry (if v.fewResets then .hardResetSend else .srcDisconnected)] ++
      (if v.txOk then [(v.setState .srcNegociate).setFew true] else [])
  | .srcNegociate => [v.armOnEntry .hardResetSend]
  | .srcAccepted => [v.armOnEntry .srcPowered]
  | .srcPowered => [v.armOnEntry .srcTransition]
  | .srcTransition => [if v.txOk then v.setState .srcReady else v.setState .srcDisconnected]
  | .srcReady =>
    [v, v.setState .srcGetSinkCap] ++
      (if v.txOk then [v.setState .srcNegociate] else [v.setState .softReset])
  | .srcGetSinkCap => [v.armOnEntry .srcReady]
  | .drSwap => [v.sendOnEntry v.readyReturnState]
  | .srcSwapInit => [v.sendOnEntry .srcReady]
  | .srcSwapSnkDisable => [v.armOnEntry .srcSwapSrcDisable]
  | .srcSwapSrcDisable => [if v.entering then (v.note (.vbus false)).arm .srcSwapStandby else v]
  | .srcSwapStandby =>
    [if v.entering then
        if v.txOk then ((v.setPull false).setRole .sink).arm .snkDisconnected
        else v.setState .srcDisconnected
      else v]
  | .softReset =>
    [if v.entering then
        if v.txOk then v.arm .hardResetSend else v.setState .hardResetSend
      else v]
  | .hardResetSend => [v.hardResetSend true, v.hardResetSend false]
  | .hardResetExecute =>
    [(if v.last = .snkSwapStandby then v.setPull false else v).executeHardReset]

/-- The state timeout. -/
def checkTimeout (v : Control) : List Control :=
  if v.armed then [v, v.setState v.timeoutState] else [v]

/-- The detach of a sink. -/
def checkDetach (v : Control) : List Control :=
  if v.connected ∧ ¬ v.powerSwapping ∧ v.role = .source then
    [v, (v.note .detach).setState .srcDisconnected]
  else [v]

/-- The tail of an iteration. -/
def finish (v : Control) (thisState : PdState) : List Control :=
  ((v.setLast thisState).checkTimeout).flatMap checkDetach

/-- The iteration from the switch on. -/
def runSwitch (v : Control) : List Control := v.runState.flatMap fun w => w.finish v.task

/-- One iteration. -/
def iterate (v : Control) (reset : Bool) (kind : Option MsgKind) : List Control :=
  ((v.applyReset reset).receive kind).flatMap fun w => w.applySuspend.runSwitch

/-- The reports of the interrupt handler, in order. -/
def completeTransmissions (v : Control) (irq : Interrupts) : Control :=
  let v := if irq.collision then v.setTx false else v
  let v := if irq.txSuccess then v.setTx true else v
  let v := if irq.retryFail then v.setTx false else v
  if irq.hardSent then v.setTx true else v

/-- The interrupt handler. -/
def alert (v : Control) (irq : Interrupts) : Control :=
  let v := v.completeTransmissions irq
  if irq.hardReset then v.executeHardReset else v

def softResetCall (v : Control) : Control := if v.connected then v.setState .softReset else v

def requestPowerSwap (v : Control) : Control :=
  if v.task = .srcReady then v.setState .srcSwapInit
  else if v.task = .snkReady then v.setState .snkSwapInit
  else v

def requestDataSwap (v : Control) : Control :=
  if v.task = v.readyReturnState then v.setState .drSwap else v

/-- Everything an event may do. -/
def step (b : Board) (v : Control) : Event → List Control
  | .iterate inp => v.iterate inp.reset (inp.message.map (PdMsg.kind b))
  | .alert irq _ => [v.alert irq]
  | .softReset => [v.softResetCall]
  | .requestPowerSwap => [v.requestPowerSwap]
  | .requestDataSwap => [v.requestDataSwap]
  | _ => [v]

end Control

end UsbPd
