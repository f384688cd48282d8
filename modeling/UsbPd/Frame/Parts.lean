import UsbPd.Machine.Frame
import UsbPd.Protocol.Iteration

/-!
# The parts of a port

The fields of a port in groups that are written together, the kinds of log
entries, and what the updates and the calls of the port write.
-/

namespace UsbPd

inductive Part where
  | role
  | dataRole
  /-- the POWERROLE and DATAROLE bits of SWITCHES1 -/
  | roleBits
  | chip
  | task
  | last
  | timer
  | suspend
  | link
  | polarity
  | debounce
  | recover
  | trySrcMarker
  | requestedIdx
  /-- `curr_limit`, `supply_voltage` and `prev_request_mv` -/
  | power
  | newPowerRequest
  | vdm
  | pingEnabled
  | partner
  | identity
  | snkCapRecvd
  | contract
  | vbusNeverLow
  | previousPdConn
  | roleChecks
  | trySrc
  | updateSrcCaps
  | tsDtsPartner
  | cc
  | hardResetCount
  | nextRoleSwap
  | vbusOff
  | typecCurr
  | capsCount
  | hardResetSent
  | snkCapCount
  | drpState
  | srcCaps
  | maxRequestMv
  | index
  | maxIndex
  deriving DecidableEq

/-- The kinds of log entries. Accepts, Requests and the capabilities of a source have
kinds of their own among the messages. -/
inductive CallKind where
  | received
  | alert
  | accept
  | request
  | caps
  | sop
  | hardReset
  | bist
  | msgIdReset
  | rxEnable
  | vbus
  | noCurrent
  | current
  | transitionVoltage
  | executeHardReset
  | contractAgreed
  | powerSwapAccepted
  | detach
  deriving DecidableEq

/-- The header of an Accept, or of a data message with its type. -/
def saysAccept (header : BitVec 16) : Bool := headerType header = CtrlMsgType.accept.toNat

/-- The header of a Request, or of a control message with its type. -/
def saysRequest (header : BitVec 16) : Bool := headerType header = DataMsgType.request.toNat

/-- The header of Source_Capabilities, or of a control message with its type. -/
def saysCaps (header : BitVec 16) : Bool := headerType header = DataMsgType.sourceCap.toNat

/-- The types of the messages without a kind of their own. -/
def Ordinary (type : Nat) : Prop :=
  type ≠ CtrlMsgType.accept.toNat ∧ type ≠ DataMsgType.request.toNat ∧
    type ≠ DataMsgType.sourceCap.toNat

instance decidableOrdinary (type : Nat) : Decidable (Ordinary type) :=
  inferInstanceAs (Decidable (_ ∧ _))

def Call.kind : Call → CallKind
  | .received _ => .received
  | .alert _ => .alert
  | .transmit .sop header _ _ =>
      if saysAccept header then .accept
      else if saysRequest header then .request
      else if saysCaps header then .caps
      else .sop
  | .transmit .hardReset _ _ _ => .hardReset
  | .transmit .bistMode2 _ _ _ => .bist
  | .msgIdReset => .msgIdReset
  | .rxEnable _ => .rxEnable
  | .vbus _ => .vbus
  | .inputCurrentLimit ma mv => if ma = 0 ∧ mv = 0 then .noCurrent else .current
  | .transitionVoltage _ => .transitionVoltage
  | .executeHardReset => .executeHardReset
  | .contractAgreed => .contractAgreed
  | .powerSwapAccepted => .powerSwapAccepted
  | .detach => .detach

/-- The roles that the chip puts into its GoodCRC messages. -/
def Fusb302.roleBits (c : Fusb302) : Bool × Bool :=
  (c.regs.switches1.getLsbD 7, c.regs.switches1.getLsbD 4)

def Part.Value : Part → Type
  | .role => PowerRole
  | .dataRole => DataRole
  | .roleBits => Bool × Bool
  | .chip => Fusb302
  | .task | .last => PdState
  | .timer => Nat × PdState
  | .link => Nat × TxStatus
  | .debounce => Nat × CcState
  | .power => Nat × Nat × Nat
  | .vdm => VdmState × Nat × List Word × Nat × Word
  | .partner => Bool × Bool × Bool × Bool
  | .roleChecks => Bool × Bool
  | .cc => CcVoltage × CcVoltage
  | .hardResetCount | .snkCapCount => Int
  | .typecCurr => Word × Bool
  | .drpState => DualRoleState
  | .srcCaps => List Word × Nat
  | .recover | .trySrcMarker | .requestedIdx | .nextRoleSwap | .capsCount | .maxRequestMv | .index
  | .maxIndex => Nat
  | _ => Bool

namespace Port

def part : (x : Part) → Port → x.Value
  | .role, p => p.pd.powerRole
  | .dataRole, p => p.pd.dataRole
  | .roleBits, p => p.chip.roleBits
  | .chip, p => p.chip
  | .task, p => p.pd.taskState
  | .last, p => p.pd.lastState
  | .timer, p => (p.pd.timeout, p.pd.timeoutState)
  | .suspend, p => p.pd.reqSuspendState
  | .link, p => (p.pd.msgId, p.pd.txStatus)
  | .polarity, p => p.pd.polarity
  | .debounce, p => (p.pd.ccDebounce, p.pd.ccState)
  | .recover, p => p.pd.srcRecover
  | .trySrcMarker, p => p.pd.trySrcMarker
  | .requestedIdx, p => p.pd.requestedIdx
  | .power, p => (p.pd.currLimit, p.pd.supplyVoltage, p.pd.prevRequestMv)
  | .newPowerRequest, p => p.pd.newPowerRequest
  | .vdm, p => (p.pd.vdmState, p.pd.vdmTimeout, p.pd.vdoData, p.pd.vdoCount, p.pd.vdoRetry)
  | .pingEnabled, p => p.pd.flags.pingEnabled
  | .partner, p => (p.pd.flags.partnerDrPower, p.pd.flags.partnerDrData,
      p.pd.flags.partnerExtpower, p.pd.flags.partnerUsbComm)
  | .identity, p => p.pd.flags.checkIdentity
  | .snkCapRecvd, p => p.pd.flags.snkCapRecvd
  | .contract, p => p.pd.flags.explicitContract
  | .vbusNeverLow, p => p.pd.flags.vbusNeverLow
  | .previousPdConn, p => p.pd.flags.previousPdConn
  | .roleChecks, p => (p.pd.flags.checkPrRole, p.pd.flags.checkDrRole)
  | .trySrc, p => p.pd.flags.trySrc
  | .updateSrcCaps, p => p.pd.flags.updateSrcCaps
  | .tsDtsPartner, p => p.pd.flags.tsDtsPartner
  | .cc, p => (p.st.cc1, p.st.cc2)
  | .hardResetCount, p => p.st.hardResetCount
  | .nextRoleSwap, p => p.st.nextRoleSwap
  | .vbusOff, p => p.st.snkHardResetVbusOff
  | .typecCurr, p => (p.st.typecCurr, p.st.typecCurrChange)
  | .capsCount, p => p.st.capsCount
  | .hardResetSent, p => p.st.hardResetSent
  | .snkCapCount, p => p.st.snkCapCount
  | .drpState, p => p.st.drpState
  | .srcCaps, p => (p.st.srcCaps, p.st.srcCapCnt)
  | .maxRequestMv, p => p.st.maxRequestMv
  | .index, p => p.st.sourceCapCurrentIndex
  | .maxIndex, p => p.st.sourceCapMaxIndex

def view : Machine.View Port Part CallKind Call Part.Value where
  part := part
  log := log
  kind := Call.kind

end Port

/-- From `p` to `q` only the parts `W` are written and only calls of the kinds `K`
are made. -/
abbrev Does (W : List Part) (K : List CallKind) (p q : Port) : Prop :=
  Machine.Does Port.view W K p q

namespace Port

variable (p : Port)

/-! Assignments. -/

theorem does_record (c : Call) : Does [] [c.kind] p (p.record c) :=
  .entry (fun x => by cases x <;> rfl) rfl

theorem does_setTask (s : PdState) : Does [.task] [] p (p.setTask s) :=
  .assign (by rintro ⟨⟩ hx <;> first | rfl | simp at hx) rfl

theorem does_setLast (s : PdState) : Does [.last] [] p (p.setLast s) :=
  .assign (by rintro ⟨⟩ hx <;> first | rfl | simp at hx) rfl

theorem does_setPowerRole (role : PowerRole) : Does [.role] [] p (p.setPowerRole role) :=
  .assign (by rintro ⟨⟩ hx <;> first | rfl | simp at hx) rfl

theorem does_setStateTimeout (timeout : Nat) (s : PdState) :
    Does [.timer] [] p (p.setStateTimeout timeout s) :=
  .assign (by rintro ⟨⟩ hx <;> first | rfl | simp at hx) rfl

theorem does_clearNewPowerRequest : Does [.newPowerRequest] [] p p.clearNewPowerRequest :=
  .assign (by rintro ⟨⟩ hx <;> first | rfl | simp at hx) rfl

theorem does_setRequestedPower (ma mv : Nat) : Does [.power] [] p (p.setRequestedPower ma mv) :=
  .assign (by rintro ⟨⟩ hx <;> first | rfl | simp at hx) rfl

/-! The flags that are written one at a time. -/

theorem does_setIdentity (b : Bool) :
    Does [.identity] [] p (p.setFlags { p.pd.flags with checkIdentity := b }) :=
  .assign (by rintro ⟨⟩ hx <;> first | rfl | simp at hx) rfl

theorem does_setContract (b : Bool) :
    Does [.contract] [] p (p.setFlags { p.pd.flags with explicitContract := b }) :=
  .assign (by rintro ⟨⟩ hx <;> first | rfl | simp at hx) rfl

theorem does_setPreviousPdConn (b : Bool) :
    Does [.previousPdConn] [] p (p.setFlags { p.pd.flags with previousPdConn := b }) :=
  .assign (by rintro ⟨⟩ hx <;> first | rfl | simp at hx) rfl

theorem does_setVbusNeverLow (b : Bool) :
    Does [.vbusNeverLow] [] p (p.setFlags { p.pd.flags with vbusNeverLow := b }) :=
  .assign (by rintro ⟨⟩ hx <;> first | rfl | simp at hx) rfl

theorem does_setTsDtsPartner (b : Bool) :
    Does [.tsDtsPartner] [] p (p.setFlags { p.pd.flags with tsDtsPartner := b }) :=
  .assign (by rintro ⟨⟩ hx <;> first | rfl | simp at hx) rfl

/-! Calls of the board. -/

theorem does_pdSetInputCurrentLimit (ma mv : Nat) :
    Does [] [.noCurrent, .current] p (p.pdSetInputCurrentLimit ma mv) := by
  refine (p.does_record (.inputCurrentLimit ma mv)).mono ⟨by decide, ?_⟩
  by_cases hzero : ma = 0 ∧ mv = 0
  · simp [Call.kind, hzero]
  · simp [Call.kind, hzero]

theorem does_clearInputCurrentLimit : Does [] [.noCurrent] p (p.pdSetInputCurrentLimit 0 0) :=
  p.does_record (.inputCurrentLimit 0 0)

theorem does_pdPowerSupplyReset : Does [] [.vbus] p p.pdPowerSupplyReset :=
  p.does_record (.vbus false)

theorem does_pdSetPowerSupplyReady : Does [] [.vbus] p p.pdSetPowerSupplyReady.2 :=
  p.does_record (.vbus true)

/-! Calls into the port controller. Most of them keep the role bits. -/

theorem does_modifyChip {f : Fusb302 → Fusb302} (hbits : (f p.chip).roleBits = p.chip.roleBits) :
    Does [.chip] [] p (p.modifyChip f) :=
  .assign (by rintro ⟨⟩ hx <;> first | rfl | exact hbits | simp at hx) rfl

theorem does_tcpmSetMsgHeader (prole : PowerRole) (drole : DataRole) :
    Does [.chip, .roleBits] [] p (p.tcpmSetMsgHeader prole drole) :=
  .assign (by rintro ⟨⟩ hx <;> first | rfl | simp at hx) rfl

end Port

namespace Fusb302

variable (c : Fusb302)

theorem roleBits_setCc (pull : CcPull) : (c.setCc pull).2.roleBits = c.roleBits := by
  cases pull <;> rfl

theorem roleBits_setPolarity (polarity : Int) : (c.setPolarity polarity).roleBits = c.roleBits := by
  unfold setPolarity roleBits
  split_ifs <;> simp [tcpcWrite, writeReg, tcpcRead, readReg, switches1Txcc1En, switches1Txcc2En]

theorem roleBits_autoGoodcrcEnable (enable : Bool) :
    (c.autoGoodcrcEnable enable).roleBits = c.roleBits := by
  cases enable <;>
    simp [autoGoodcrcEnable, roleBits, tcpcWrite, writeReg, tcpcRead, readReg, switches1AutoGcrc]

theorem roleBits_setRxEnable (enable : Bool) :
    (c.setRxEnable enable).2.roleBits = c.roleBits := by
  unfold setRxEnable
  simp only
  split_ifs
  · rfl
  all_goals
    rw [roleBits_autoGoodcrcEnable]
    rfl

theorem roleBits_transmit (type : TransmitType) : (c.transmit type).roleBits = c.roleBits := by
  cases type <;> rfl

theorem roleBits_measureCcPinSource (pin2 : Bool) (vnc rd : BitVec 8) :
    (c.measureCcPinSource pin2 vnc rd).2.roleBits = c.roleBits := by
  unfold measureCcPinSource
  simp only
  split_ifs <;> rfl

theorem roleBits_getCc (r : CcReading) (cc1 cc2 : CcVoltage) :
    (c.getCc r cc1 cc2).2.2.roleBits = c.roleBits := by
  unfold getCc detectCcPinSourceManual
  split_ifs
  · exact c.roleBits_measureCcPinSource _ _ _
  · exact c.roleBits_measureCcPinSource _ _ _
  · rw [roleBits_measureCcPinSource, roleBits_measureCcPinSource]
  · rfl

/-- The bits after `fusb302_tcpm_set_msg_header` are the roles. -/
theorem roleBits_setMsgHeader (prole drole : Bool) :
    (c.setMsgHeader prole drole).roleBits = (prole, drole) := by
  cases prole <;> cases drole <;>
    simp [setMsgHeader, roleBits, tcpcWrite, writeReg, tcpcRead, readReg, switches1PowerRole,
      switches1DataRole]

end Fusb302

namespace Port

variable (p : Port)

theorem does_tcpmSetCc (pull : CcPull) : Does [.chip] [] p (p.tcpmSetCc pull) :=
  p.does_modifyChip (p.chip.roleBits_setCc pull)

theorem does_tcpmSetPolarity (polarity : Bool) : Does [.chip] [] p (p.tcpmSetPolarity polarity) :=
  p.does_modifyChip (p.chip.roleBits_setPolarity _)

theorem does_tcpmSetRxEnable (enable : Bool) :
    Does [.chip] [.rxEnable] p (p.tcpmSetRxEnable enable) := by
  have hchip := p.does_modifyChip (f := fun chip => (chip.setRxEnable enable).2)
    (p.chip.roleBits_setRxEnable enable)
  unfold tcpmSetRxEnable
  simp only
  split_ifs
  · exact (hchip.trans (does_record _ (.rxEnable enable))).mono
      ⟨by decide, List.Subset.refl [CallKind.rxEnable]⟩
  · exact hchip.mono (by decide)

theorem does_tcpmGetCc (r : CcReading) : Does [.chip, .cc] [] p (p.tcpmGetCc r) := by
  refine .assign (fun x hx => ?_) rfl
  cases x with
  | roleBits => exact p.chip.roleBits_getCc r _ _
  | chip | cc => exact absurd (by decide) hx
  | _ => rfl

/-! Transmissions. -/

/-- The type is the lowest field of a header, whatever the others hold. -/
theorem headerType_header {type : Nat} (htype : type < 16) (cnt : Nat) :
    headerType (p.header type cnt) = type := by
  have hshift : ∀ x k, 4 ≤ k → x <<< k % 2 ^ 4 = 0 := by
    intro x k hk
    obtain ⟨j, rfl⟩ := Nat.exists_eq_add_of_le hk
    rw [Nat.shiftLeft_eq, Nat.pow_add, ← Nat.mul_assoc, Nat.mul_right_comm]
    exact Nat.mul_mod_left _ _
  have hlow : ∀ x : Nat, (BitVec.ofNat 16 x).toNat % 16 = x % 2 ^ 4 := by
    intro x
    rw [BitVec.toNat_ofNat]
    omega
  unfold headerType header pdHeader
  rw [hlow]
  simp only [Nat.or_mod_two_pow, hshift _ 5 (by decide), hshift _ 6 (by decide),
    hshift _ 8 (by decide), hshift _ 9 (by decide), hshift _ 12 (by decide), Nat.or_zero]
  exact Nat.mod_eq_of_lt htype

theorem does_pdTransmit (type : TransmitType) (header : BitVec 16) (data : List Word) :
    Does [.chip] [(Call.transmit type header data 0).kind] p (p.pdTransmit type header data).2 := by
  have hchip := p.does_modifyChip (f := fun chip => chip.transmit type)
    (p.chip.roleBits_transmit type)
  refine (hchip.trans (does_record _ (.transmit type header data _))).mono ⟨by decide, ?_⟩
  cases type <;> exact List.Subset.refl _

theorem kind_sop {type : Nat} (htype : type < 16) (cnt : Nat) (data : List Word) (res : Int) :
    (Call.transmit .sop (p.header type cnt) data res).kind =
      if type = CtrlMsgType.accept.toNat then .accept
      else if type = DataMsgType.request.toNat then .request
      else if type = DataMsgType.sourceCap.toNat then .caps
      else .sop := by
  rw [Call.kind, saysAccept, saysRequest, saysCaps, headerType_header p htype]
  simp only [decide_eq_true_eq]

theorem does_sop {type : Nat} (htype : type < 16) (hne : Ordinary type) (cnt : Nat)
    (data : List Word) :
    Does [.chip] [.sop] p (p.pdTransmit .sop (p.header type cnt) data).2 := by
  have hsent := p.does_pdTransmit .sop (p.header type cnt) data
  rwa [kind_sop p htype, if_neg hne.1, if_neg hne.2.1, if_neg hne.2.2] at hsent

theorem does_sendControl {type : CtrlMsgType} (hne : Ordinary type.toNat) :
    Does [.chip] [.sop] p (p.sendControl type).2 :=
  p.does_sop type.toNat_lt hne 0 []

theorem does_sendAccept : Does [.chip] [.accept] p (p.sendControl .accept).2 := by
  have hsent := p.does_pdTransmit .sop (p.header CtrlMsgType.accept.toNat 0) []
  rwa [kind_sop p (by decide)] at hsent

theorem does_sendSourceCap (b : Board) : Does [.chip] [.caps, .sop] p (p.sendSourceCap b).2 := by
  unfold sendSourceCap
  split_ifs
  · exact (p.does_sop (by decide) (by decide) 0 _).mono (by decide)
  · have hsent := p.does_pdTransmit .sop
      (p.header DataMsgType.sourceCap.toNat b.srcPdo.length) b.srcPdo
    rw [kind_sop p (by decide)] at hsent
    exact hsent.mono (by decide)

theorem does_sendSinkCap (b : Board) : Does [.chip] [.sop] p (p.sendSinkCap b) :=
  p.does_sop (by decide) (by decide) _ _

theorem does_sendRequest (rdo : Word) : Does [.chip] [.request] p (p.sendRequest rdo).2 := by
  have hsent := p.does_pdTransmit .sop (p.header DataMsgType.request.toNat 1) [rdo]
  rwa [kind_sop p (by decide)] at hsent

theorem does_resetMsgId : Does [.link] [.msgIdReset] p p.resetMsgId where
  keeps := by rintro ⟨⟩ hx <;> first | rfl | simp at hx
  adds := ⟨[.msgIdReset], rfl, by decide⟩

/-! State changes and resets. -/

theorem does_enterDisconnected :
    Does [.chip] [.noCurrent, .vbus, .rxEnable] p p.enterDisconnected := by
  unfold enterDisconnected
  simp only
  split_ifs
  · exact ((p.does_clearInputCurrentLimit.trans (does_pdPowerSupplyReset _)).trans
      (does_tcpmSetRxEnable _ false)).mono (by decide)
  · exact (p.does_clearInputCurrentLimit.trans (does_tcpmSetRxEnable _ false)).mono (by decide)

theorem does_goto (s : PdState) :
    Does [.task, .timer] [] p ((p.setStateTimeout 0 .disabled).setTask s) :=
  ((p.does_setStateTimeout 0 .disabled).trans (does_setTask _ s)).mono (by decide)

theorem does_setState (s : PdState) :
    Does [.task, .timer, .chip] [.noCurrent, .vbus, .rxEnable] p (p.setState s) := by
  have hgoto := p.does_goto s
  unfold setState
  simp only
  split_ifs
  · exact hgoto.mono (by decide)
  · exact hgoto.mono (by decide)
  · exact (hgoto.trans (does_enterDisconnected _)).mono (by decide)
  · exact hgoto.mono (by decide)

/-- A change to any other state only assigns. -/
theorem does_setState_of_ne {s : PdState}
    (hs : s ≠ .srcDisconnected ∧ s ≠ .snkDisconnected) :
    Does [.task, .timer] [] p (p.setState s) := by
  have hgoto := p.does_goto s
  unfold setState
  simp only [hs.1, hs.2, or_self, and_false, if_false]
  split <;> exact hgoto

theorem does_pdExecuteHardReset (now : Nat) :
    Does [.link, .last, .task, .timer, .chip, .recover]
      [.executeHardReset, .msgIdReset, .vbus, .noCurrent] p (p.pdExecuteHardReset now) := by
  have hstart : Does [.link, .last] [.executeHardReset, .msgIdReset] p
      ((p.record .executeHardReset).resetMsgId.setLast .hardResetExecute) :=
    (((p.does_record .executeHardReset).trans (does_resetMsgId _)).trans
      (does_setLast _ .hardResetExecute)).mono (by decide)
  unfold pdExecuteHardReset
  simp only
  generalize hq : (if ((p.record .executeHardReset).resetMsgId.setLast
      .hardResetExecute).pd.taskState = .snkSwapStandby ∨ ((p.record
      .executeHardReset).resetMsgId.setLast .hardResetExecute).pd.taskState = .snkSwapComplete
    then _ else _ : Port) = q
  have hrestored : Does [.link, .last, .chip] [.executeHardReset, .msgIdReset, .vbus] p q := by
    rw [← hq]
    split_ifs
    · have hoff := (hstart.trans (does_tcpmSetCc _ .rd)).trans (does_pdPowerSupplyReset _)
      exact hoff.mono (by decide)
    · exact hstart.mono (by decide)
  have hrecover : ∀ r : Port, Does [.recover] [] r
      (r.modifyPd fun pd => { pd with srcRecover := now + pdTSrcRecover }) := fun r =>
    .assign (by rintro ⟨⟩ hx <;> first | rfl | simp at hx) rfl
  split_ifs
  · exact ((hrestored.trans (does_clearInputCurrentLimit _)).trans
      (does_setState_of_ne _ (by decide))).mono (by decide)
  · exact (((hrestored.trans (does_pdPowerSupplyReset _)).trans (hrecover _)).trans
      (does_setState_of_ne _ (by decide))).mono (by decide)

theorem does_executeSoftReset :
    Does [.link, .task, .timer] [.msgIdReset] p p.executeSoftReset := by
  refine (p.does_resetMsgId.trans (does_setState_of_ne _ ?_)).mono (by decide)
  unfold dualRoleIfElse
  cases p.resetMsgId.pd.powerRole <;> exact ⟨by decide, by decide⟩

theorem does_pdSetDataRole (role : DataRole) :
    Does [.dataRole, .chip, .roleBits] [] p (p.pdSetDataRole role) :=
  .assign (by rintro ⟨⟩ hx <;> first | rfl | simp at hx) rfl

theorem does_pdUpdateRoles : Does [.chip, .roleBits] [] p p.pdUpdateRoles :=
  p.does_tcpmSetMsgHeader _ _

theorem does_pdDrSwap : Does [.dataRole, .chip, .roleBits, .identity] [] p p.pdDrSwap :=
  ((p.does_pdSetDataRole _).trans (does_setIdentity _ true)).mono (by decide)

theorem does_sendBuiltRequest (always : Bool) (req : PowerRequest) :
    Does [.power, .task, .timer, .chip] [.request] p (p.sendBuiltRequest always req).2 := by
  have hsent := (p.does_setRequestedPower req.currLimit req.supplyVoltage).trans
    (does_sendRequest _ req.rdo)
  unfold sendBuiltRequest
  simp only
  split_ifs
  · exact Machine.Does.refl.mono (by decide)
  · exact hsent.mono (by decide)
  · exact (hsent.trans (does_setState_of_ne _ (by decide))).mono (by decide)

theorem does_pdSendRequestMsg (always : Bool) :
    Does [.newPowerRequest, .power, .task, .timer, .chip] [.request] p
      (p.pdSendRequestMsg always).2 := by
  rw [pdSendRequestMsg_eq]
  exact (p.does_clearNewPowerRequest.trans (does_sendBuiltRequest _ _ _)).mono (by decide)

theorem does_pdUpdatePdoFlags (pdo : Word) : Does [.partner] [] p (p.pdUpdatePdoFlags pdo) := by
  unfold pdUpdatePdoFlags
  split_ifs
  · exact Machine.Does.refl.mono (by decide)
  · exact .assign (by rintro ⟨⟩ hx <;> first | rfl | simp at hx) rfl

theorem does_pdProcessSourceCap (srcCaps : List Word) :
    Does [.srcCaps] [.noCurrent, .current] p (p.pdProcessSourceCap srcCaps) := by
  have hstored : Does [.srcCaps] [] p (p.modifySt fun st => { st with
      srcCapCnt := srcCaps.length, srcCaps := srcCaps ++ st.srcCaps.drop srcCaps.length }) :=
    .assign (by rintro ⟨⟩ hx <;> first | rfl | simp at hx) rfl
  exact (hstored.trans (does_pdSetInputCurrentLimit _ _ _)).mono (by decide)

/-! Vendor defined messages. -/

theorem does_pdSendVdm (vid cmd : Word) (data : List Word) :
    Does [.vdm] [] p (p.pdSendVdm vid cmd data) := by
  unfold pdSendVdm
  split
  · exact Machine.Does.refl.mono (by decide)
  · exact .assign (by rintro ⟨⟩ hx <;> first | rfl | simp at hx) rfl

theorem does_handleVdmRequest (now : Nat) (payload : List Word) :
    Does [.vdm] [] p (p.handleVdmRequest now payload) := by
  unfold handleVdmRequest
  simp only [pdSvdm, pdCustomVdm, ite_self]
  split_ifs
  · exact .assign (by rintro ⟨⟩ hx <;> first | rfl | simp at hx) rfl
  · exact .assign (by rintro ⟨⟩ hx <;> first | rfl | simp at hx) rfl
  · exact Machine.Does.refl.mono (by decide)

theorem does_sendQueuedVdm (now : Nat) : Does [.vdm, .chip] [.sop] p (p.sendQueuedVdm now) := by
  have hsent : Does [.chip] [.sop] p (p.pdTransmit .sop
      (p.header DataMsgType.vendorDef.toNat p.pd.vdoCount) (p.pd.vdoData.take p.pd.vdoCount)).2 :=
    p.does_sop (by decide) (by decide) _ _
  have hstate : ∀ (q : Port) (state : VdmState) (timeout : Nat), Does [.vdm] [] q
      (q.modifyPd fun pd => { pd with vdmState := state, vdmTimeout := timeout }) :=
    fun q _ _ => .assign (by rintro ⟨⟩ hx <;> first | rfl | simp at hx) rfl
  unfold sendQueuedVdm
  simp only
  split_ifs
  · exact (hsent.trans (hstate _ .errSend _)).mono (by decide)
  · exact (hsent.trans (hstate _ .busy _)).mono (by decide)

theorem does_pdVdmSendStateMachine (now : Nat) :
    Does [.vdm, .chip] [.sop] p (p.pdVdmSendStateMachine now) := by
  have hassign : ∀ q : Port, (∀ x, x ∉ [Part.vdm] → q.part x = p.part x) → q.log = p.log →
      Does [.vdm, .chip] [.sop] p q := fun q hkeeps hlog =>
    (Machine.Does.assign (W := [Part.vdm]) hkeeps hlog).mono (by decide)
  have hrefl : Does [.vdm, .chip] [.sop] p p := Machine.Does.refl.mono (by decide)
  unfold pdVdmSendStateMachine
  split
  · split_ifs
    · exact hrefl
    · exact p.does_sendQueuedVdm now
    · exact hassign _ (by rintro ⟨⟩ hx <;> first | rfl | simp at hx) rfl
  · split_ifs
    · exact hassign _ (by rintro ⟨⟩ hx <;> first | rfl | simp at hx) rfl
    · exact hrefl
  · split_ifs
    · exact hassign _ (by rintro ⟨⟩ hx <;> first | rfl | simp at hx) rfl
    · exact hrefl
  · exact hrefl

end Port

end UsbPd
