import UsbPd.Policy.Request
import UsbPd.Port.Update

/-!
# Calls of the port into its controller and its board, and transmission

The `tcpm_*` calls act on the port controller, the board calls of
`usb_pd_driver.cpp` are constants or leave the port as it is and are only
logged. `pd_transmit` does not wait for the outcome of a transmission: it
returns what `tx_status` held before.
-/

namespace UsbPd

/-! The constant answers of the board and of the configuration. -/

/-- `pd_comm_is_enabled`. -/
def pdCommIsEnabled : Bool := true

/-- `pd_snk_is_vbus_provided`, which is what `pd_is_vbus_present` asks. -/
def pdIsVbusPresent : Bool := true

/-- `pd_try_src_enable`. -/
def pdTrySrcEnable : Bool := false

/-- `pd_check_power_swap`: power swaps are always refused. -/
def pdCheckPowerSwap : Bool := false

/-- `pd_check_data_swap`: data swaps are never allowed. -/
def pdCheckDataSwap : Bool := false

/-- `pd_board_checks`. -/
def pdBoardChecks : EcResult := .success

/-- The event bits that `pd_run_state_machine` looks at. -/
structure PdEvents where
  updateDualRole : Bool
  tcpcReset : Bool
  rx : Bool
  deriving DecidableEq

/-- `evt`: static and assigned nowhere, so no event is ever seen. -/
def evt : PdEvents where
  updateDualRole := false
  tcpcReset := false
  rx := false

namespace Port

/-! Board calls. -/

/-- `pd_set_input_current_limit`. -/
def pdSetInputCurrentLimit (p : Port) (ma mv : Nat) : Port := p.record (.inputCurrentLimit ma mv)

/-- `pd_power_supply_reset`: VBUS off. -/
def pdPowerSupplyReset (p : Port) : Port := p.record (.vbus false)

/-- `pd_set_power_supply_ready`: VBUS on. -/
def pdSetPowerSupplyReady (p : Port) : EcResult × Port := (.success, p.record (.vbus true))

/-- `pd_transition_voltage`. -/
def pdTransitionVoltage (p : Port) (idx : Nat) : Port := p.record (.transitionVoltage idx)

/-- `pd_execute_data_swap`. -/
def pdExecuteDataSwap (p : Port) (_role : DataRole) : Port := p

/-- `pd_check_pr_role`. -/
def pdCheckPrRole (p : Port) : Port := p

/-- `pd_check_dr_role`. -/
def pdCheckDrRole (p : Port) : Port := p

/-! Calls into the port controller. -/

/-- `tcpm_init`. -/
def tcpmInit (p : Port) : EcResult × Port := (.success, p.modifyChip Fusb302.init)

/-- `tcpm_select_rp_value`. -/
def tcpmSelectRpValue (p : Port) (rp : RpValue) : Port :=
  p.modifyChip fun chip => chip.selectRpValue rp

/-- `tcpm_set_cc`. -/
def tcpmSetCc (p : Port) (pull : CcPull) : Port :=
  p.modifyChip fun chip => (chip.setCc pull).2

/-- `tcpm_set_polarity`. -/
def tcpmSetPolarity (p : Port) (polarity : Bool) : Port :=
  p.modifyChip fun chip => chip.setPolarity polarity.toNat

/-- `tcpm_set_msg_header`. -/
def tcpmSetMsgHeader (p : Port) (powerRole : PowerRole) (dataRole : DataRole) : Port :=
  p.modifyChip fun chip => chip.setMsgHeader (powerRole == .source) (dataRole == .dfp)

/-- `tcpm_set_rx_enable`, logged when it takes effect. -/
def tcpmSetRxEnable (p : Port) (enable : Bool) : Port :=
  let q := p.modifyChip fun chip => (chip.setRxEnable enable).2
  if (p.chip.setRxEnable enable).1 = .success then q.record (.rxEnable enable) else q

/-- `tcpm_get_cc(port, &cc1, &cc2)`. -/
def tcpmGetCc (p : Port) (r : CcReading) : Port :=
  let m := p.chip.getCc r p.st.cc1 p.st.cc2
  (p.modifyChip fun _ => m.2.2).modifySt fun st => { st with cc1 := m.1, cc2 := m.2.1 }

/-! What these calls leave alone. -/

section

variable (p : Port)

@[simp] theorem pdSetInputCurrentLimit_pd (ma mv : Nat) :
    (p.pdSetInputCurrentLimit ma mv).pd = p.pd := rfl
@[simp] theorem pdSetInputCurrentLimit_st (ma mv : Nat) :
    (p.pdSetInputCurrentLimit ma mv).st = p.st := rfl
@[simp] theorem pdPowerSupplyReset_pd : p.pdPowerSupplyReset.pd = p.pd := rfl
@[simp] theorem pdPowerSupplyReset_st : p.pdPowerSupplyReset.st = p.st := rfl
@[simp] theorem pdSetPowerSupplyReady_fst : p.pdSetPowerSupplyReady.1 = .success := rfl
@[simp] theorem pdSetPowerSupplyReady_pd : p.pdSetPowerSupplyReady.2.pd = p.pd := rfl
@[simp] theorem pdSetPowerSupplyReady_st : p.pdSetPowerSupplyReady.2.st = p.st := rfl
@[simp] theorem pdSetPowerSupplyReady_chip : p.pdSetPowerSupplyReady.2.chip = p.chip := rfl
@[simp] theorem pdTransitionVoltage_pd (idx : Nat) : (p.pdTransitionVoltage idx).pd = p.pd := rfl
@[simp] theorem pdTransitionVoltage_st (idx : Nat) : (p.pdTransitionVoltage idx).st = p.st := rfl
@[simp] theorem pdCheckPrRole_eq : p.pdCheckPrRole = p := rfl
@[simp] theorem pdCheckDrRole_eq : p.pdCheckDrRole = p := rfl
@[simp] theorem pdExecuteDataSwap_eq (role : DataRole) : p.pdExecuteDataSwap role = p := rfl

@[simp] theorem tcpmSelectRpValue_pd (rp : RpValue) : (p.tcpmSelectRpValue rp).pd = p.pd := rfl
@[simp] theorem tcpmSelectRpValue_st (rp : RpValue) : (p.tcpmSelectRpValue rp).st = p.st := rfl
@[simp] theorem tcpmSelectRpValue_log (rp : RpValue) : (p.tcpmSelectRpValue rp).log = p.log := rfl
@[simp] theorem tcpmSetCc_pd (pull : CcPull) : (p.tcpmSetCc pull).pd = p.pd := rfl
@[simp] theorem tcpmSetCc_st (pull : CcPull) : (p.tcpmSetCc pull).st = p.st := rfl
@[simp] theorem tcpmSetCc_log (pull : CcPull) : (p.tcpmSetCc pull).log = p.log := rfl
@[simp] theorem tcpmSetPolarity_pd (polarity : Bool) : (p.tcpmSetPolarity polarity).pd = p.pd := rfl
@[simp] theorem tcpmSetPolarity_st (polarity : Bool) : (p.tcpmSetPolarity polarity).st = p.st := rfl
@[simp] theorem tcpmSetPolarity_log (polarity : Bool) :
    (p.tcpmSetPolarity polarity).log = p.log := rfl
@[simp] theorem tcpmSetMsgHeader_pd (prole : PowerRole) (drole : DataRole) :
    (p.tcpmSetMsgHeader prole drole).pd = p.pd := rfl
@[simp] theorem tcpmSetMsgHeader_st (prole : PowerRole) (drole : DataRole) :
    (p.tcpmSetMsgHeader prole drole).st = p.st := rfl
@[simp] theorem tcpmSetMsgHeader_log (prole : PowerRole) (drole : DataRole) :
    (p.tcpmSetMsgHeader prole drole).log = p.log := rfl
@[simp] theorem tcpmGetCc_pd (r : CcReading) : (p.tcpmGetCc r).pd = p.pd := rfl
@[simp] theorem tcpmGetCc_log (r : CcReading) : (p.tcpmGetCc r).log = p.log := rfl

@[simp] theorem tcpmSetRxEnable_pd (enable : Bool) : (p.tcpmSetRxEnable enable).pd = p.pd := by
  unfold tcpmSetRxEnable
  split <;> rfl

@[simp] theorem tcpmSetRxEnable_st (enable : Bool) : (p.tcpmSetRxEnable enable).st = p.st := by
  unfold tcpmSetRxEnable
  split <;> rfl

end

/-! Transmission. -/

/-- `pd[port].msg_id = 0`. -/
def resetMsgId (p : Port) : Port :=
  (p.record .msgIdReset).modifyPd fun pd => { pd with msgId := 0 }

/-- `inc_id`. -/
def incId (p : Port) : Port := p.modifyPd fun pd => { pd with msgId := (pd.msgId + 1) &&& 7 }

/-- `pd_transmit_complete`. -/
def pdTransmitComplete (p : Port) (status : TxStatus) : Port :=
  (if status = .success then p.incId else p).modifyPd fun pd => { pd with txStatus := status }

/-- `pd_transmit`: hand the message to the controller and return at once; the
result is the status of the last transmission that completed. -/
def pdTransmit (p : Port) (type : TransmitType) (header : BitVec 16) (data : List Word) :
    Int × Port :=
  if pdCommIsEnabled then
    let res : Int := if p.pd.txStatus = .success then 1 else -1
    (res, (p.modifyChip fun chip => chip.transmit type).record (.transmit type header data res))
  else (-1, p)

@[simp] theorem resetMsgId_pd (p : Port) : p.resetMsgId.pd = { p.pd with msgId := 0 } := rfl
@[simp] theorem resetMsgId_st (p : Port) : p.resetMsgId.st = p.st := rfl
@[simp] theorem resetMsgId_chip (p : Port) : p.resetMsgId.chip = p.chip := rfl
@[simp] theorem resetMsgId_log (p : Port) : p.resetMsgId.log = .msgIdReset :: p.log := rfl

@[simp] theorem pdTransmit_pd (p : Port) (type : TransmitType) (header : BitVec 16)
    (data : List Word) : (p.pdTransmit type header data).2.pd = p.pd := rfl
@[simp] theorem pdTransmit_st (p : Port) (type : TransmitType) (header : BitVec 16)
    (data : List Word) : (p.pdTransmit type header data).2.st = p.st := rfl

/-- The header of a message of this port. -/
def header (p : Port) (type cnt : Nat) : BitVec 16 :=
  pdHeader type p.pd.powerRole p.pd.dataRole p.pd.msgId cnt pdRev20

/-- `pd_update_roles`. -/
def pdUpdateRoles (p : Port) : Port := p.tcpmSetMsgHeader p.pd.powerRole p.pd.dataRole

/-- `send_control`. -/
def sendControl (p : Port) (type : CtrlMsgType) : Int × Port :=
  p.pdTransmit .sop (p.header type.toNat 0) []

/-- `send_source_cap`; with no source capabilities a Reject header is sent. -/
def sendSourceCap (b : Board) (p : Port) : Int × Port :=
  if b.srcPdo.length = 0 then
    p.pdTransmit .sop (p.header CtrlMsgType.reject.toNat 0) b.srcPdo
  else
    p.pdTransmit .sop (p.header DataMsgType.sourceCap.toNat b.srcPdo.length) b.srcPdo

/-- `send_sink_cap`. -/
def sendSinkCap (b : Board) (p : Port) : Port :=
  (p.pdTransmit .sop (p.header DataMsgType.sinkCap.toNat b.snkPdo.length) b.snkPdo).2

/-- `send_request`. -/
def sendRequest (p : Port) (rdo : Word) : Int × Port :=
  p.pdTransmit .sop (p.header DataMsgType.request.toNat 1) [rdo]

@[simp] theorem pdUpdateRoles_pd (p : Port) : p.pdUpdateRoles.pd = p.pd := rfl
@[simp] theorem pdUpdateRoles_st (p : Port) : p.pdUpdateRoles.st = p.st := rfl
@[simp] theorem pdUpdateRoles_log (p : Port) : p.pdUpdateRoles.log = p.log := rfl

@[simp] theorem sendControl_pd (p : Port) (type : CtrlMsgType) :
    (p.sendControl type).2.pd = p.pd := rfl
@[simp] theorem sendControl_st (p : Port) (type : CtrlMsgType) :
    (p.sendControl type).2.st = p.st := rfl
@[simp] theorem sendSinkCap_pd (b : Board) (p : Port) : (p.sendSinkCap b).pd = p.pd := rfl
@[simp] theorem sendSinkCap_st (b : Board) (p : Port) : (p.sendSinkCap b).st = p.st := rfl
@[simp] theorem sendRequest_pd (p : Port) (rdo : Word) : (p.sendRequest rdo).2.pd = p.pd := rfl
@[simp] theorem sendRequest_st (p : Port) (rdo : Word) : (p.sendRequest rdo).2.st = p.st := rfl

@[simp] theorem sendSourceCap_pd (b : Board) (p : Port) : (p.sendSourceCap b).2.pd = p.pd := by
  unfold sendSourceCap
  split <;> rfl

@[simp] theorem sendSourceCap_st (b : Board) (p : Port) : (p.sendSourceCap b).2.st = p.st := by
  unfold sendSourceCap
  split <;> rfl

end Port

end UsbPd
