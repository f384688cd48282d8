import UsbPd.AltMode.Policy

/-!
# Structured VDMs with alternate modes

`pd_svdm` as it is compiled with `CONFIG_USB_PD_ALT_MODE` and
`CONFIG_USB_PD_ALT_MODE_DFP`: the answers of a partner fill the tables of the policy
engine, and the next question is built in the buffer of the answer.
-/

namespace UsbPd

/-- A VDM as `pd_svdm` gets it. `payload` points to `cnt` received words; what follows
them in memory is whatever was there. -/
structure VdmBuffer where
  cnt : Nat
  memory : List Word
  cnt_pos : 0 < cnt
  cnt_le : cnt ≤ 7
  held : cnt ≤ memory.length

namespace VdmBuffer

variable (m : VdmBuffer)

def header : Word := firstObject m.memory

def cmd : Nat := pdVdoCmd m.header

def cmdType : Nat := pdVdoCmdt m.header

/-- The data objects behind the header. -/
def objects : List Word := (m.memory.take m.cnt).tail

end VdmBuffer

/-- `PD_IDH_PTYPE`. -/
def pdIdhPtype (vdo : Word) : Nat := (vdo >>> 27).toNat % 8

/-- `PD_VDO_AMA_VBUS_REQ`. -/
def pdVdoAmaVbusReq (vdo : Word) : Bool := vdo.getLsbD 3

/-- `PD_VDO_SVID_SVID0` and `PD_VDO_SVID_SVID1`. -/
def pdVdoSvidSvid0 (vdo : Word) : BitVec 16 := (vdo >>> 16).setWidth 16

def pdVdoSvidSvid1 (vdo : Word) : BitVec 16 := vdo.setWidth 16

/-- What `pd_svdm` leaves: the size of the response, its buffer and the policy engine. -/
structure SvdmResult where
  rsize : Int
  payload : List Word
  dfp : Dfp

namespace Dfp

variable (supported : List (BitVec 16)) (env : DfpEnv) (s : Dfp)

/-- `dfp_consume_identity`. -/
def dfpConsumeIdentity (cnt : Nat) (payload : List Word) : Dfp :=
  let ptype := pdIdhPtype (payload.getD 1 0)
  let identitySize := if cnt - 1 ≤ pdoModes then cnt - 1 else pdoModes
  let s := { s with pe := .init }
  let s := { s with pe.identity := memcpyVdo s.pe.identity (payload.drop 1) identitySize }
  if ptype = 5 ∧ ¬ pdVdoAmaVbusReq (payload.getD 4 0) then s.note .powerSupplyReset else s

/-- `dfp_discover_svids`. -/
def dfpDiscoverSvids (payload : List Word) : Int × List Word :=
  (1, payload.set 0 (vdo usbSidPd true 2))

/-- `svids[i].svid = svid; svid_cnt++`. -/
def storeSvid (i : Nat) (svid : BitVec 16) : Dfp :=
  let s := s.note (.svid i)
  { s with
    pe.svids := s.pe.svids.setIfInBounds i { s.svidData env i with svid := svid }
    pe.svidCnt := s.pe.svidCnt + 1 }

/-- The loop of `dfp_consume_svids`, where `ptr` leads to `payload[object]` and on. It
reads on until it meets a 0, if need be to the end of the memory. -/
def consumeSvidsFrom : List Word → Nat → Nat → Dfp → Dfp
  | ptr, object, i, s =>
    if s.pe.svidCnt + 12 ≤ i then s
    else if i = svidDiscoveryMax then s
    else
      let s := s.note (.object object)
      match ptr with
      | [] => s
      | word :: ptr =>
        let svid0 := pdVdoSvidSvid0 word
        if svid0 = 0 then s
        else
          let s := s.storeSvid env i svid0
          let svid1 := pdVdoSvidSvid1 word
          if svid1 = 0 then s
          else consumeSvidsFrom ptr (object + 1) (i + 2) (s.storeSvid env (i + 1) svid1)

/-- `dfp_consume_svids`. -/
def dfpConsumeSvids (payload : List Word) : Dfp :=
  consumeSvidsFrom env (payload.drop 1) 1 s.pe.svidCnt s

/-- `dfp_discover_modes`. The SVID is read before the index is checked. -/
def dfpDiscoverModes (payload : List Word) : Int × List Word × Dfp :=
  let svid := (s.svidData env s.pe.svidIdx).svid
  let s := s.note (.svid s.pe.svidIdx)
  if s.pe.svidCnt ≤ s.pe.svidIdx then (0, payload, s)
  else (1, payload.set 0 (vdo (svid.setWidth 32) true 3), s)

/-- `dfp_consume_modes`. -/
def dfpConsumeModes (cnt : Nat) (payload : List Word) : Dfp :=
  let idx := s.pe.svidIdx
  let data := s.svidData env idx
  let modeCnt : Int := cnt - 1
  let modeVdo := if modeCnt < 0 then data.modeVdo
    else memcpyVdo data.modeVdo (payload.drop 1) modeCnt.toNat
  let s := s.note (.svid idx)
  { s with
    pe.svids := s.pe.svids.setIfInBounds idx ⟨data.svid, modeCnt, modeVdo⟩
    pe.svidIdx := idx + 1 }

/-- `dfp_consume_attention`. -/
def dfpConsumeAttention (payload : List Word) : List Word × Dfp :=
  let svid := (pdVdoVid (firstObject payload)).setWidth 16
  let opos : Int := pdVdoOpos (firstObject payload)
  match s.getModeIdx supported env svid with
  | (none, s) => (payload, s)
  | (some i, s) =>
    if validateModeRequest supported (s.slot i) svid opos then
      match (env.fx (s.slot i).fx).attention with
      | some attention => (attention payload, s)
      | none => (payload, s)
    else (payload, s)

/-- `payload[0] |= bits`. -/
def orHeader (payload : List Word) (bits : Word) : List Word :=
  payload.set 0 (firstObject payload ||| bits)

/-- The function of `svdm_rsp` for a command. -/
def svdmRsp (cmd : Nat) : Option (List Word → Int × List Word) :=
  if cmd ∈ [1, 2, 3, 4, 5, 16, 17] then env.rsp cmd else none

/-- The answer to a request. -/
def svdmInit (cmd : Nat) (payload : List Word) : SvdmResult :=
  if cmd = 6 then
    let attention := s.dfpConsumeAttention supported env payload
    ⟨0, attention.1, attention.2⟩
  else
    let answer : Int × List Word := match svdmRsp env cmd with
      | some func => func payload
      | none => (0, payload)
    -- ACK, NAK or BUSY in the bits of the command type
    let response := if 1 ≤ answer.1 then (answer.1, orHeader answer.2 (1 <<< 6))
      else if answer.1 = 0 then (1, orHeader answer.2 (2 <<< 6))
      else (1, orHeader answer.2 (3 <<< 6))
    ⟨response.1, orHeader response.2 (BitVec.ofNat 32 env.vdoVer <<< 13), s⟩

/-- The case `CMD_ENTER_MODE` of an ACK, with the slot that `modep` points to. -/
def ackEnterMode (modep : Option Nat) (payload : List Word) : SvdmResult :=
  match modep with
  | none => ⟨0, payload, s⟩
  | some i =>
    let s := if (s.slot i).opos = 0 then (s.pdDfpEnterMode supported env 0 0).2 else s
    let slot := s.slot i
    if slot.opos = 0 then ⟨1, payload, s⟩
    else
      let status := (env.fx slot.fx).status payload
      let opos := BitVec.ofNat 32 (pdVdoOpos (BitVec.ofInt 32 slot.opos))
      ⟨status.1, orHeader status.2 opos, s.follow i slot.fx⟩

/-- The case `CMD_DP_STATUS` of an ACK. -/
def ackDpStatus (modep : Option Nat) (payload : List Word) : SvdmResult :=
  let attention := s.dfpConsumeAttention supported env payload
  let s := attention.2
  match modep with
  | none => ⟨0, attention.1, s⟩
  | some i =>
    let slot := s.slot i
    if slot.opos = 0 then ⟨0, attention.1, s⟩
    else
      let config := (env.fx slot.fx).config attention.1
      ⟨config.1, config.2, s.follow i slot.fx⟩

/-- The case `CMD_DISCOVER_MODES` of an ACK: after the last SVID the default mode is
entered. -/
def ackDiscoverModes (cnt : Nat) (payload : List Word) : SvdmResult :=
  let next := (s.dfpConsumeModes env cnt payload).dfpDiscoverModes env payload
  if next.1 = 0 then
    let entered := next.2.2.pdDfpEnterMode supported env 0 0
    ⟨if entered.1 = 0 then 0 else 1, next.2.1.set 0 entered.1, entered.2⟩
  else ⟨next.1, next.2.1, next.2.2⟩

/-- The case of `cmd` of an ACK. -/
def ackCommand (cmd cnt : Nat) (modep : Option Nat) (payload : List Word) : SvdmResult :=
  if cmd = 1 then
    let next := dfpDiscoverSvids payload
    ⟨next.1, next.2, s.dfpConsumeIdentity cnt payload⟩
  else if cmd = 2 then
    let next := (s.dfpConsumeSvids env payload).dfpDiscoverModes env payload
    ⟨next.1, next.2.1, next.2.2⟩
  else if cmd = 3 then s.ackDiscoverModes supported env cnt payload
  else if cmd = 4 then s.ackEnterMode supported env modep payload
  else if cmd = 16 then s.ackDpStatus supported env modep payload
  -- the function `post_config` of the mode returns nothing
  else if cmd = 17 then
    match modep with
    | none => ⟨0, payload, s⟩
    | some i => ⟨0, payload, if (s.slot i).opos = 0 then s else s.follow i (s.slot i).fx⟩
  else ⟨0, payload, s⟩

/-- The next step after an ACK. -/
def svdmAck (cmd cnt : Nat) (payload : List Word) : SvdmResult :=
  let modep := s.getModeIdx supported env ((pdVdoVid (firstObject payload)).setWidth 16)
  let r := modep.2.ackCommand supported env cmd cnt modep.1 payload
  { r with payload := orHeader r.payload (BitVec.ofNat 32 env.vdoVer <<< 13) }

/-- `pd_svdm`. -/
def pdSvdm (m : VdmBuffer) : SvdmResult :=
  let payload := m.memory.set 0 (m.header &&& ~~~0xC0)
  if m.cmdType = 0 then s.svdmInit supported env m.cmd payload
  else if m.cmdType = 1 then s.svdmAck supported env m.cmd m.cnt payload
  else if m.cmdType = 3 then
    -- a discovery is repeated if the partner was busy
    ⟨if m.cmd = 1 ∨ m.cmd = 2 ∨ m.cmd = 3 then 1 else 0, payload, s⟩
  else ⟨0, payload, s⟩

end Dfp

end UsbPd
