import UsbPd.Port.Message
import UsbPd.Tcpc.Fusb302

/-!
# The state of a port

`PdProtocol` is `struct pd_protocol`, `Statics` collects the file-level
variables of the protocol, the policy and the sketch, and `Port` puts them
together with the port controller and with the log of what the port did. The
log is newest first. It is not part of the program: it records the messages,
the interrupts and the calls that properties of whole runs speak about.
-/

namespace UsbPd

/-- `enum pd_states` in the configuration with dual role and nothing else. -/
inductive PdState where
  | disabled
  | suspended
  | snkDisconnected
  | snkDisconnectedDebounce
  | snkHardResetRecover
  | snkDiscovery
  | snkRequested
  | snkTransition
  | snkReady
  | snkSwapInit
  | snkSwapSnkDisable
  | snkSwapSrcDisable
  | snkSwapStandby
  | snkSwapComplete
  | srcDisconnected
  | srcDisconnectedDebounce
  | srcHardResetRecover
  | srcStartup
  | srcDiscovery
  | srcNegociate
  | srcAccepted
  | srcPowered
  | srcTransition
  | srcReady
  | srcGetSinkCap
  | drSwap
  | srcSwapInit
  | srcSwapSnkDisable
  | srcSwapSrcDisable
  | srcSwapStandby
  | softReset
  | hardResetSend
  | hardResetExecute
  deriving DecidableEq, Repr

/-- `enum pd_cc_states`. -/
inductive CcState where
  | none
  | noUfp
  | audioAcc
  | debugAcc
  | ufpAttached
  | dfpAttached
  deriving DecidableEq, Repr

/-- `enum pd_dual_role_states`. -/
inductive DualRoleState where
  | toggleOn
  | toggleOff
  | freeze
  | forceSink
  | forceSource
  deriving DecidableEq, Repr

/-- `enum vdm_states`. -/
inductive VdmState where
  | errBusy
  | errSend
  | errTmout
  | done
  | ready
  | busy
  | waitRspBusy
  deriving DecidableEq, Repr

/-- `enum tcpc_transmit_complete`. -/
inductive TxStatus where
  | success
  | discarded
  | failed
  deriving DecidableEq, Repr

/-- The `PD_FLAGS_*` bits of `pd[port].flags`. -/
structure PdFlags where
  pingEnabled : Bool
  partnerDrPower : Bool
  partnerDrData : Bool
  checkIdentity : Bool
  snkCapRecvd : Bool
  explicitContract : Bool
  vbusNeverLow : Bool
  previousPdConn : Bool
  checkPrRole : Bool
  checkDrRole : Bool
  partnerExtpower : Bool
  trySrc : Bool
  partnerUsbComm : Bool
  updateSrcCaps : Bool
  tsDtsPartner : Bool
  deriving DecidableEq

/-- `flags = 0`. -/
def PdFlags.zero : PdFlags where
  pingEnabled := false
  partnerDrPower := false
  partnerDrData := false
  checkIdentity := false
  snkCapRecvd := false
  explicitContract := false
  vbusNeverLow := false
  previousPdConn := false
  checkPrRole := false
  checkDrRole := false
  partnerExtpower := false
  trySrc := false
  partnerUsbComm := false
  updateSrcCaps := false
  tsDtsPartner := false

/-- `struct pd_protocol`. Times are `get_time().val` values in microseconds;
`timeout = 0` means that no timer runs. -/
structure PdProtocol where
  powerRole : PowerRole
  dataRole : DataRole
  msgId : Nat
  polarity : Bool
  taskState : PdState
  lastState : PdState
  reqSuspendState : Bool
  timeoutState : PdState
  flags : PdFlags
  timeout : Nat
  srcRecover : Nat
  ccDebounce : Nat
  ccState : CcState
  txStatus : TxStatus
  requestedIdx : Nat
  currLimit : Nat
  supplyVoltage : Nat
  newPowerRequest : Bool
  prevRequestMv : Nat
  trySrcMarker : Nat
  vdmState : VdmState
  vdmTimeout : Nat
  vdoData : List Word
  vdoCount : Nat
  vdoRetry : Word
  deriving DecidableEq

/-- The static variables that outlive one iteration: those of
`usb_pd_protocol.cpp`, the received capabilities and the voltage cap of
`usb_pd_policy.cpp` and the selected capability of the sketch. The signed
counters wrap at 32 bits. -/
structure Statics where
  cc1 : CcVoltage
  cc2 : CcVoltage
  hardResetCount : Int
  nextRoleSwap : Nat
  snkHardResetVbusOff : Bool
  typecCurr : Word
  typecCurrChange : Bool
  capsCount : Nat
  hardResetSent : Bool
  snkCapCount : Int
  drpState : DualRoleState
  srcCaps : List Word
  srcCapCnt : Nat
  maxRequestMv : Nat
  sourceCapCurrentIndex : Nat
  sourceCapMaxIndex : Nat
  deriving DecidableEq

/-- The interrupt registers that `fusb302_tcpc_alert` reads. -/
structure Interrupts where
  interrupt : BitVec 8
  interrupta : BitVec 8
  interruptb : BitVec 8
  deriving DecidableEq

/-- Entries of the log. -/
inductive Call where
  /-- a message handed over by `tcpm_get_message` -/
  | received (m : PdMsg)
  /-- interrupt bits polled by `fusb302_tcpc_alert` -/
  | alert (irq : Interrupts)
  /-- `pd_transmit` and what it returned -/
  | transmit (type : TransmitType) (header : BitVec 16) (data : List Word) (res : Int)
  /-- `msg_id` set to 0 -/
  | msgIdReset
  /-- `tcpm_set_rx_enable` that took effect -/
  | rxEnable (enable : Bool)
  /-- `pd_set_power_supply_ready` and `pd_power_supply_reset` -/
  | vbus (on : Bool)
  | inputCurrentLimit (ma mv : Nat)
  | transitionVoltage (idx : Nat)
  /-- `pd_execute_hard_reset` has run -/
  | executeHardReset
  /-- a Request has been accepted: the explicit contract is in place -/
  | contractAgreed
  /-- a power role swap has been accepted -/
  | powerSwapAccepted
  /-- the tail of an iteration found the CC line open -/
  | detach
  deriving DecidableEq

/-- A port: protocol state, statics, port controller and log. -/
structure Port where
  pd : PdProtocol
  st : Statics
  chip : Fusb302
  log : List Call
  deriving DecidableEq

/-- Zero-initialised static data, with the initialisers the declarations give. -/
def PdProtocol.static : PdProtocol where
  powerRole := .sink
  dataRole := .ufp
  msgId := 0
  polarity := false
  taskState := .disabled
  lastState := .disabled
  reqSuspendState := false
  timeoutState := .disabled
  flags := .zero
  timeout := 0
  srcRecover := 0
  ccDebounce := 0
  ccState := .none
  txStatus := .success
  requestedIdx := 0
  currLimit := 0
  supplyVoltage := 0
  newPowerRequest := false
  prevRequestMv := 0
  trySrcMarker := 0
  vdmState := .done
  vdmTimeout := 0
  vdoData := List.replicate 7 0
  vdoCount := 0
  vdoRetry := 0

def Statics.static : Statics where
  cc1 := .open
  cc2 := .open
  hardResetCount := 0
  nextRoleSwap := 40000
  snkHardResetVbusOff := false
  typecCurr := 0
  typecCurrChange := false
  capsCount := 0
  hardResetSent := false
  snkCapCount := 0
  drpState := .freeze
  srcCaps := List.replicate 7 0
  srcCapCnt := 0
  maxRequestMv := 12000
  sourceCapCurrentIndex := 0
  sourceCapMaxIndex := 0

def Port.powerOn : Port where
  pd := .static
  st := .static
  chip := .powerOn
  log := []

end UsbPd
