import UsbPd.Protocol.Transition

/-!
# Vendor defined messages

One outgoing VDM is kept in `vdo_data` and sent by
`pd_vdm_send_state_machine` when the port is in a READY state. The board
answers no incoming VDM: `pd_svdm` and `pd_custom_vdm` return no response.
-/

namespace UsbPd

/-- The response of `pd_svdm` without alternate modes. -/
def pdSvdm : List Word := []

/-- The response of `pd_custom_vdm`. -/
def pdCustomVdm : List Word := []

/-- `USB_SID_PD`. -/
def usbSidPd : Word := 0xff00

/-- `CMD_DISCOVER_IDENT`. -/
def cmdDiscoverIdent : Word := 1

/-- `vdm_get_ready_timeout`; the commands 4 and 5 enter and exit a mode. -/
def vdmGetReadyTimeout (vdmHdr : Word) : Nat :=
  let cmd := pdVdoCmd vdmHdr
  if ¬ pdVdoSvdm vdmHdr then 500000
  else if pdVdoCmdt vdmHdr = 0 then
    if cmd = 4 ∨ cmd = 5 then pdTVdmWaitModeE else pdTVdmSndrRsp
  else
    if cmd = 4 ∨ cmd = 5 then pdTVdmEMode else pdTVdmRcvrRsp

namespace Port

/-- `queue_vdm`. -/
def queueVdm (p : Port) (header : Word) (data : List Word) : Port :=
  p.modifyPd fun pd => { pd with
      vdoCount := data.length + 1,
      vdoData := header :: (data ++ pd.vdoData.drop (data.length + 1)),
      vdmState := .ready }

/-- `pd_send_vdm`; more than `VDO_MAX_SIZE - 1` objects are refused. -/
def pdSendVdm (p : Port) (vid cmd : Word) (data : List Word) : Port :=
  if 6 < data.length then p
  else
    let type := if vid &&& usbSidPd = usbSidPd then true else decide (pdVdoCmd cmd ≤ 6)
    p.queueVdm (vdo vid type cmd) data

/-- `handle_vdm_request`. A Busy response (command type 3) to the VDM in flight
saves its header, as an initiator's (command type 0), for a retry. -/
def handleVdmRequest (p : Port) (now : Nat) (payload : List Word) : Port :=
  let hdr := firstObject payload
  if p.pd.vdmState = .busy ∧ pdVdoCmdt hdr = 3 then
    p.modifyPd fun pd => { pd with
      vdmTimeout := now + pdTVdmBusy, vdmState := .waitRspBusy, vdoRetry := hdr &&& ~~~0xC0 }
  else
    let p := if p.pd.vdmState = .busy then p.modifyPd fun pd => { pd with vdmState := .done }
      else p
    match if pdVdoSvdm hdr then pdSvdm else pdCustomVdm with
    | [] => p
    | rdata :: rest => p.queueVdm rdata rest

/-- `pdo_busy`. -/
def pdoBusy (p : Port) : Bool := p.pd.taskState ≠ .srcReady ∧ p.pd.taskState ≠ .snkReady

/-- The `VDM_STATE_READY` case: transmit the queued VDM. -/
def sendQueuedVdm (p : Port) (now : Nat) : Port :=
  let header := p.header DataMsgType.vendorDef.toNat p.pd.vdoCount
  let sent := p.pdTransmit .sop header (p.pd.vdoData.take p.pd.vdoCount)
  if sent.1 < 0 then sent.2.modifyPd fun pd => { pd with vdmState := .errSend }
  else sent.2.modifyPd fun pd => { pd with
      vdmState := .busy,
      vdmTimeout := now + vdmGetReadyTimeout (firstObject p.pd.vdoData) }

/-- `pd_vdm_send_state_machine`. -/
def pdVdmSendStateMachine (p : Port) (now : Nat) : Port :=
  match p.pd.vdmState with
  | .ready =>
    if ¬ p.pdIsConnected then p.modifyPd fun pd => { pd with vdmState := .errBusy }
    else if p.pdoBusy then p
    else p.sendQueuedVdm now
  | .waitRspBusy =>
    if p.pd.vdmTimeout < now then
      p.modifyPd fun pd => { pd with
        vdoData := pd.vdoRetry :: pd.vdoData.drop 1, vdoCount := 1, vdmState := .ready }
    else p
  | .busy =>
    if p.pd.vdmTimeout ≠ 0 ∧ p.pd.vdmTimeout < now then
      p.modifyPd fun pd => { pd with vdmState := .errTmout }
    else p
  | _ => p

end Port

end UsbPd
