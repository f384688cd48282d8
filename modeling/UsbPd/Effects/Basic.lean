import UsbPd.Machine.History
import UsbPd.System.Run

/-!
# Effects

Everything the port does to the state of the link and of the negotiation, in
small effects: assignments to other data, logged calls, resets of the message
id, transmissions, and, where they are allowed, the effects of a negotiation.
An operation of the port is a chain of effects, stated here as a rule that
appends the operation to a chain.
-/

namespace UsbPd

/-- The stored capabilities, the selected one and the requested power. -/
structure Selection where
  currLimit : Nat
  supplyVoltage : Nat
  prevRequestMv : Nat
  newPowerRequest : Bool
  srcCaps : List Word
  srcCapCnt : Nat
  sourceCapCurrentIndex : Nat
  sourceCapMaxIndex : Nat

/-- The data of the link and of the negotiation, and the log. -/
structure Tracked where
  msgId : Nat
  txStatus : TxStatus
  selection : Selection
  log : List Call

/-- The calls that neither the link nor the negotiation depends on. -/
def Call.plain : Call → Bool
  | .received _ => false
  | .alert _ => false
  | .transmit _ _ _ _ => false
  | .msgIdReset => false
  | _ => true

namespace Port

def selection (p : Port) : Selection where
  currLimit := p.pd.currLimit
  supplyVoltage := p.pd.supplyVoltage
  prevRequestMv := p.pd.prevRequestMv
  newPowerRequest := p.pd.newPowerRequest
  srcCaps := p.st.srcCaps
  srcCapCnt := p.st.srcCapCnt
  sourceCapCurrentIndex := p.st.sourceCapCurrentIndex
  sourceCapMaxIndex := p.st.sourceCapMaxIndex

def tracked (p : Port) : Tracked where
  msgId := p.pd.msgId
  txStatus := p.pd.txStatus
  selection := p.selection
  log := p.log

/-- A header that the port writes for a message other than a Request. -/
def Writes (p : Port) (header : BitVec 16) : Prop :=
  ∃ type cnt, type < 16 ∧ (type = DataMsgType.request.toNat → cnt = 0) ∧
    header = p.header type cnt

theorem writes_header (p : Port) {type cnt : Nat} (htype : type < 16)
    (hrequest : type = DataMsgType.request.toNat → cnt = 0) : p.Writes (p.header type cnt) :=
  ⟨type, cnt, htype, hrequest, rfl⟩

end Port

/-- One effect; those of a negotiation are allowed under `R` only. -/
inductive Effect (R : Prop) : Port → Port → Prop
  | assign {p q : Port} (h : q.tracked = p.tracked) : Effect R p q
  | call (p : Port) {c : Call} (h : c.plain = true) : Effect R p (p.record c)
  | resetMsgId (p : Port) : Effect R p p.resetMsgId
  | transmit (p : Port) (type : TransmitType) (header : BitVec 16) (data : List Word)
      (h : type = .sop → p.Writes header) : Effect R p (p.pdTransmit type header data).2
  | negotiate {p q : Port} (hR : R) (h : q.pd.msgId = p.pd.msgId ∧
      q.pd.txStatus = p.pd.txStatus ∧ q.log = p.log) : Effect R p q
  | request (hR : R) (p : Port) (rdo : Word) : Effect R p (p.sendRequest rdo).2

/-- A chain of effects. -/
def Effects (R : Prop) : Port → Port → Prop := Relation.ReflTransGen (Effect R)

namespace Effects

variable {R : Prop} {p q r : Port}

theorem refl : Effects R p p := Relation.ReflTransGen.refl

theorem tail (h : Effects R p q) (h' : Effect R q r) : Effects R p r :=
  Relation.ReflTransGen.tail h h'

theorem assign (h : Effects R p q) (hr : r.tracked = q.tracked) : Effects R p r :=
  h.tail (.assign hr)

theorem call (h : Effects R p q) {c : Call} (hc : c.plain = true) : Effects R p (q.record c) :=
  h.tail (.call q hc)

theorem resetMsgId (h : Effects R p q) : Effects R p q.resetMsgId := h.tail (.resetMsgId q)

theorem transmit (h : Effects R p q) (type : TransmitType) (header : BitVec 16)
    (data : List Word) (hw : type = .sop → q.Writes header) :
    Effects R p (q.pdTransmit type header data).2 :=
  h.tail (.transmit q type header data hw)

theorem negotiate (h : Effects R p q) (hR : R) (hr : r.pd.msgId = q.pd.msgId ∧
    r.pd.txStatus = q.pd.txStatus ∧ r.log = q.log) : Effects R p r :=
  h.tail (.negotiate hR hr)

theorem request (h : Effects R p q) (hR : R) (rdo : Word) : Effects R p (q.sendRequest rdo).2 :=
  h.tail (.request hR q rdo)

/-! Calls and transmissions. -/

theorem setFlags (h : Effects R p q) (flags : PdFlags) : Effects R p (q.setFlags flags) :=
  h.assign rfl

theorem modifySt (h : Effects R p q) (g : Statics → Statics)
    (hg : (q.modifySt g).tracked = q.tracked) : Effects R p (q.modifySt g) :=
  h.assign hg

theorem pdSetDataRole (h : Effects R p q) (role : DataRole) : Effects R p (q.pdSetDataRole role) :=
  h.assign rfl

theorem pdSetInputCurrentLimit (h : Effects R p q) (ma mv : Nat) :
    Effects R p (q.pdSetInputCurrentLimit ma mv) :=
  h.call rfl

theorem pdPowerSupplyReset (h : Effects R p q) : Effects R p q.pdPowerSupplyReset :=
  h.call rfl

theorem pdSetPowerSupplyReady (h : Effects R p q) : Effects R p q.pdSetPowerSupplyReady.2 :=
  h.call rfl

theorem tcpmSetRxEnable (h : Effects R p q) (enable : Bool) :
    Effects R p (q.tcpmSetRxEnable enable) := by
  unfold Port.tcpmSetRxEnable
  split_ifs
  · exact .call (.assign h (by rfl)) (by rfl)
  · exact .assign h (by rfl)

theorem sendControl (h : Effects R p q) (type : CtrlMsgType) :
    Effects R p (q.sendControl type).2 :=
  h.transmit _ _ _ fun _ => q.writes_header type.toNat_lt fun _ => rfl

theorem sendSourceCap (h : Effects R p q) (b : Board) : Effects R p (q.sendSourceCap b).2 := by
  unfold Port.sendSourceCap
  split_ifs
  · exact .transmit h _ _ _ fun _ => q.writes_header (by decide) (by decide)
  · exact .transmit h _ _ _ fun _ => q.writes_header (by decide) (by intro h; cases h)

theorem sendSinkCap (h : Effects R p q) (b : Board) : Effects R p (q.sendSinkCap b) :=
  h.transmit _ _ _ fun _ => q.writes_header (by decide) (by intro h; cases h)

/-! State changes and resets. -/

theorem enterDisconnected (h : Effects R p q) : Effects R p q.enterDisconnected := by
  unfold Port.enterDisconnected
  refine .tcpmSetRxEnable ?_ false
  split_ifs
  · exact .pdPowerSupplyReset (.pdSetInputCurrentLimit h 0 0)
  · exact .pdSetInputCurrentLimit h 0 0

theorem setState (h : Effects R p q) (s : PdState) : Effects R p (q.setState s) := by
  unfold Port.setState
  simp only
  split_ifs
  · exact .assign h (by rfl)
  · exact .assign h (by rfl)
  · exact .enterDisconnected (.assign h (by rfl))
  · exact .assign h (by rfl)

theorem pdExecuteHardReset (h : Effects R p q) (now : Nat) :
    Effects R p (q.pdExecuteHardReset now) := by
  have hreset : Effects R p (q.record .executeHardReset).resetMsgId :=
    .resetMsgId (.call h (by rfl))
  have hstart : Effects R p ((q.record .executeHardReset).resetMsgId.setLast .hardResetExecute) :=
    .assign hreset (by rfl)
  unfold Port.pdExecuteHardReset
  simp only
  split_ifs
  · exact .setState (.pdSetInputCurrentLimit (.pdPowerSupplyReset (.assign hstart (by rfl))) 0 0) _
  · refine .setState (.assign (.pdPowerSupplyReset (.pdPowerSupplyReset ?_)) (by rfl)) _
    exact .assign hstart (by rfl)
  · exact .setState (.pdSetInputCurrentLimit hstart 0 0) _
  · exact .setState (.assign (.pdPowerSupplyReset hstart) (by rfl)) _

theorem executeSoftReset (h : Effects R p q) : Effects R p q.executeSoftReset :=
  .setState (.resetMsgId h) _

/-! Requests. -/

theorem sendBuiltRequest (h : Effects R p q) (hR : R) (always : Bool) (req : PowerRequest) :
    Effects R p (q.sendBuiltRequest always req).2 := by
  have hpower : Effects R p (q.setRequestedPower req.currLimit req.supplyVoltage) :=
    .negotiate h hR ⟨rfl, rfl, rfl⟩
  have hsent := hpower.request hR req.rdo
  unfold Port.sendBuiltRequest
  simp only
  split_ifs
  · exact h
  · exact hsent
  · exact .setState hsent _

theorem pdSendRequestMsg (h : Effects R p q) (hR : R) (always : Bool) :
    Effects R p (q.pdSendRequestMsg always).2 := by
  have hclear : Effects R p q.clearNewPowerRequest := .negotiate h hR ⟨rfl, rfl, rfl⟩
  rw [Port.pdSendRequestMsg_eq]
  exact .sendBuiltRequest hclear hR _ _

theorem pdUpdatePdoFlags (h : Effects R p q) (pdo : Word) :
    Effects R p (q.pdUpdatePdoFlags pdo) := by
  unfold Port.pdUpdatePdoFlags
  split_ifs
  · exact h
  · exact .assign h (by rfl)

theorem pdProcessSourceCap (h : Effects R p q) (hR : R) (srcCaps : List Word) :
    Effects R p (q.pdProcessSourceCap srcCaps) := by
  have hstored : Effects R p (q.modifySt fun st => { st with
      srcCapCnt := srcCaps.length, srcCaps := srcCaps ++ st.srcCaps.drop srcCaps.length }) :=
    .negotiate h hR ⟨rfl, rfl, rfl⟩
  exact .pdSetInputCurrentLimit hstored _ _

/-! Vendor defined messages. -/

theorem pdSendVdm (h : Effects R p q) (vid cmd : Word) (data : List Word) :
    Effects R p (q.pdSendVdm vid cmd data) := by
  unfold Port.pdSendVdm
  split
  · exact h
  · exact .assign h (by rfl)

theorem handleVdmRequest (h : Effects R p q) (now : Nat) (payload : List Word) :
    Effects R p (q.handleVdmRequest now payload) := by
  unfold Port.handleVdmRequest
  simp only [pdSvdm, pdCustomVdm, ite_self]
  split_ifs
  · exact .assign h (by rfl)
  · exact .assign h (by rfl)
  · exact h

theorem sendQueuedVdm (h : Effects R p q) (now : Nat) : Effects R p (q.sendQueuedVdm now) := by
  have hsent : Effects R p (q.pdTransmit .sop (q.header DataMsgType.vendorDef.toNat q.pd.vdoCount)
      (q.pd.vdoData.take q.pd.vdoCount)).2 :=
    h.transmit _ _ _ fun _ => q.writes_header (by decide) (by intro h; cases h)
  unfold Port.sendQueuedVdm
  simp only
  split_ifs
  · exact .assign hsent (by rfl)
  · exact .assign hsent (by rfl)

theorem pdVdmSendStateMachine (h : Effects R p q) (now : Nat) :
    Effects R p (q.pdVdmSendStateMachine now) := by
  unfold Port.pdVdmSendStateMachine
  split
  · split_ifs
    · exact h
    · exact .sendQueuedVdm h now
    · exact .assign h (by rfl)
  · split_ifs
    · exact .assign h (by rfl)
    · exact h
  · split_ifs
    · exact .assign h (by rfl)
    · exact h
  · exact h

end Effects

end UsbPd
