import UsbPd.Control.Rules
import UsbPd.Machine.History

/-!
# Conduct

What the port does to its state, its tables, its plans, its chip and its log, in single
actions with everything that the code guarantees about each of them. An operation of the
port is a chain of actions, stated as a rule that appends the operation to a chain, so a
property that every action keeps is one of every run.
-/

namespace UsbPd

namespace PdState

/-- `set_state` is called in the state `s` to enter `t`, other than with a message that
concludes something. -/
def enters (s : PdState) : PdState → Bool
  | .disabled | .snkTransition | .srcAccepted | .srcPowered | .srcTransition
  | .snkSwapSnkDisable | .snkSwapComplete | .srcSwapSnkDisable | .srcSwapSrcDisable
  | .srcSwapStandby => false
  | .snkDisconnectedDebounce => s = .snkDisconnected
  | .srcDisconnectedDebounce => s = .srcDisconnected
  | .snkRequested => s = .snkDiscovery ∨ s = .snkTransition ∨ s = .snkReady
  | .snkSwapInit => s = .snkReady
  | .snkSwapSrcDisable => s = .snkSwapSnkDisable
  | .snkSwapStandby => s = .snkSwapSrcDisable
  | .srcStartup => s = .srcDisconnectedDebounce ∨ s = .srcHardResetRecover
  | .srcNegociate => s = .srcDiscovery ∨ s = .srcReady
  | .srcGetSinkCap | .srcSwapInit => s = .srcReady
  | .drSwap => s = .snkReady ∨ s = .srcReady
  | .hardResetSend => s = .snkDiscovery ∨ s = .softReset
  | .hardResetExecute => s = .hardResetSend
  | _ => true

/-- A message that is accepted takes the state `s` to `t`. -/
inductive Concludes : PdState → Call → PdState → Prop
  | request (s : PdState) : Concludes s .contractAgreed .srcAccepted
  | accept : Concludes .snkRequested .contractAgreed .snkTransition
  | srcSwap : Concludes .srcSwapInit .powerSwapAccepted .srcSwapSnkDisable
  | snkSwap : Concludes .snkSwapInit .powerSwapAccepted .snkSwapSnkDisable

theorem Concludes.call {s t : PdState} {c : Call} (h : s.Concludes c t) :
    c = .contractAgreed ∨ c = .powerSwapAccepted := by
  cases h with
  | request | accept => exact .inl rfl
  | srcSwap | snkSwap => exact .inr rfl

/-- The timers of a state in either role. -/
def arms (s : PdState) : List PdState := Control.timers .sink s ++ Control.timers .source s

/-- Entering the state clears the input current limit. -/
def detached (s : PdState) : Bool := s = .snkDisconnected ∨ s = .srcDisconnected

/-- The states in which capabilities or a PS_RDY set the input current limit. -/
def draws (s : PdState) : Bool := s = .snkDiscovery ∨ s = .snkTransition ∨ s = .snkReady

/-- The states that follow a voltage transition or an accepted power swap. -/
def backed (s : PdState) : Bool :=
  s = .srcTransition ∨ s = .snkSwapSnkDisable ∨ s = .snkSwapSrcDisable ∨ s = .snkSwapStandby ∨
    s = .snkSwapComplete ∨ s = .srcSwapSnkDisable ∨ s = .srcSwapSrcDisable ∨ s = .srcSwapStandby

end PdState

/-- Where the port is, and where its timer leads. -/
structure Place where
  taskState : PdState
  timeoutState : PdState

/-- The data that actions other than assignments change. -/
structure Vital where
  msgId : Nat
  polarity : Bool
  currLimit : Nat
  supplyVoltage : Nat
  vdoData : List Word
  vdoCount : Nat
  srcCaps : List Word
  srcCapCnt : Nat
  sourceCapCurrentIndex : Nat
  sourceCapMaxIndex : Nat
  chip : Fusb302
  log : List Call

/-- The calls that come in any state and neither send nor set the input current limit. -/
def Call.silent : Call → Bool
  | .transmit _ _ _ _ | .inputCurrentLimit _ _ | .transitionVoltage _ | .contractAgreed
  | .powerSwapAccepted => false
  | _ => true

namespace Port

def vital (p : Port) : Vital where
  msgId := p.pd.msgId
  polarity := p.pd.polarity
  currLimit := p.pd.currLimit
  supplyVoltage := p.pd.supplyVoltage
  vdoData := p.pd.vdoData
  vdoCount := p.pd.vdoCount
  srcCaps := p.st.srcCaps
  srcCapCnt := p.st.srcCapCnt
  sourceCapCurrentIndex := p.st.sourceCapCurrentIndex
  sourceCapMaxIndex := p.st.sourceCapMaxIndex
  chip := p.chip
  log := p.log

def place (p : Port) : Place := ⟨p.pd.taskState, p.pd.timeoutState⟩

def data (p : Port) : Vital × Place := (p.vital, p.place)

/-- Only the two disconnected states clear the input current limit. -/
theorem data_setState (p : Port) {s : PdState} (hs : s.detached = false) :
    (p.setState s).data = (p.vital, ⟨s, .disabled⟩) := by
  have hnot : ¬(s = .srcDisconnected ∨ s = .snkDisconnected) := fun hd => by
    rcases hd with rfl | rfl
    · cases hs
    · cases hs
  unfold setState
  simp only
  split_ifs <;> rfl

theorem chip_setState (p : Port) {s : PdState} (hs : s.detached = false) :
    (p.setState s).chip = p.chip :=
  congrArg (fun d : Vital × Place => d.1.chip) (data_setState p hs)

/-- The state depends on the role. -/
theorem enters_dualRoleIfElse (p : Port) {s sink source : PdState} (hsink : s.enters sink = true)
    (hsource : s.enters source = true) : s.enters (p.dualRoleIfElse sink source) = true := by
  unfold dualRoleIfElse
  cases p.pd.powerRole with
  | sink => exact hsink
  | source => exact hsource

/-- The limits that the port may set: those of a PDO, and those it planned with. -/
def MayDraw (p : Port) (ma mv : Nat) : Prop :=
  (∃ pdo, pdExtractPdoPower pdo = (ma, mv)) ∨
    (ma = p.pd.currLimit ∧ mv = p.pd.supplyVoltage)

end Port

/-- One action of a port with the tables of `b`. -/
inductive Action (b : Board) : Port → Port → Prop
  | assign {p q : Port} (h : q.data = p.data) : Action b p q
  | enter {p q : Port} {s : PdState}
      (hs : s = p.pd.timeoutState ∨ p.pd.taskState.enters s = true)
      (hdetached : s.detached = true → p.pd.taskState.detached = true)
      (h : q.data = (p.vital, ⟨s, .disabled⟩)) : Action b p q
  | disconnect (p : Port) {s : PdState} (hs : s.detached = true) :
      Action b p (((p.setStateTimeout 0 .disabled).setTask s).pdSetInputCurrentLimit 0 0)
  | interrupt (p : Port) : Action b p (p.setTask .softReset)
  | arm (p : Port) {timeout : Nat} {s : PdState} (hs : s ∈ p.pd.taskState.arms)
      (hbacked : s ≠ .srcTransition) : Action b p (p.setStateTimeout timeout s)
  | conclude {p q : Port} {c : Call} {s : PdState} (hs : p.pd.taskState.Concludes c s)
      (h : q.data = ((p.record c).vital, ⟨s, .disabled⟩)) : Action b p q
  | transition {p q : Port} {idx : Nat} (hs : p.pd.taskState = .srcPowered)
      (h : q.data = ((p.record (.transitionVoltage idx)).vital, ⟨.srcPowered, .srcTransition⟩)) :
      Action b p q
  | call (p : Port) {c : Call} (h : c.silent = true) : Action b p (p.record c)
  | noCurrent (p : Port) : Action b p (p.pdSetInputCurrentLimit 0 0)
  | limit (p : Port) {ma mv : Nat} (h : p.MayDraw ma mv) (hs : p.pd.taskState.draws = true) :
      Action b p (p.pdSetInputCurrentLimit ma mv)
  | plan (p : Port) {ma mv : Nat} (h : ∃ pdo, pdExtractPdoPower pdo = (ma, mv)) :
      Action b p (p.setRequestedPower ma mv)
  | msgId (p : Port) {id : Nat} (h : id < 8) :
      Action b p (p.modifyPd fun pd => { pd with msgId := id })
  | store (p : Port) {srcCaps : List Word} (h : srcCaps.length ≤ 7) :
      Action b p (p.modifySt fun st => { st with
        srcCapCnt := srcCaps.length, srcCaps := srcCaps ++ st.srcCaps.drop srcCaps.length })
  | offer (p : Port) {cnt : Nat} (h : cnt ≤ 7) : Action b p (p.pdProcessSourceCapCallback cnt)
  | press (p : Port) : Action b p p.pressButton
  | queue (p : Port) (header : Word) {data : List Word} (h : data.length ≤ 6) :
      Action b p (p.queueVdm header data)
  | retry (p : Port) : Action b p (p.modifyPd fun pd => { pd with
      vdoData := pd.vdoRetry :: pd.vdoData.drop 1, vdoCount := 1, vdmState := .ready })
  | present (p : Port) {pull : CcPull} (h : pull = .rp ∨ pull = .rd) : Action b p (p.tcpmSetCc pull)
  | roles (p : Port) (powerRole : PowerRole) (dataRole : DataRole) :
      Action b p (p.tcpmSetMsgHeader powerRole dataRole)
  | orient (p : Port) (polarity : Bool) :
      Action b p ((p.modifyPd fun pd => { pd with polarity := polarity }).tcpmSetPolarity polarity)
  | rxEnable (p : Port) (enable : Bool) : Action b p (p.tcpmSetRxEnable enable)
  | measure (p : Port) (r : CcReading) : Action b p (p.tcpmGetCc r)
  | pdReset (p : Port) : Action b p (p.modifyChip Fusb302.pdReset)
  | flush (p : Port) : Action b p (p.modifyChip Fusb302.flushRxFifo)
  | send (p : Port) {type : Nat} (data : List Word) (htype : type < 16)
      (hcrc : data = [] → type ≠ CtrlMsgType.goodCrc.toNat)
      (hpsRdy : data = [] → type = CtrlMsgType.psRdy.toNat → p.pd.taskState.backed = true)
      (hdata : data.length ≤ 7 ∨ data = b.srcPdo ∨ data = b.snkPdo) :
      Action b p (p.pdTransmit .sop (p.header type data.length) data).2
  | sendVdm (p : Port) :
      Action b p (p.pdTransmit .sop (p.header DataMsgType.vendorDef.toNat p.pd.vdoCount)
        (p.pd.vdoData.take p.pd.vdoCount)).2
  | signal (p : Port) {type : TransmitType} (h : type ≠ .sop) :
      Action b p (p.pdTransmit type 0 []).2

/-- A chain of actions. -/
def Actions (b : Board) : Port → Port → Prop := Relation.ReflTransGen (Action b)

namespace Actions

variable {b : Board} {p q r : Port}

theorem refl : Actions b p p := Relation.ReflTransGen.refl

theorem tail (h : Actions b p q) (h' : Action b q r) : Actions b p r :=
  Relation.ReflTransGen.tail h h'

theorem assign (h : Actions b p q) (hr : r.data = q.data) : Actions b p r :=
  h.tail (.assign hr)

theorem call (h : Actions b p q) {c : Call} (hc : c.silent = true) : Actions b p (q.record c) :=
  h.tail (.call q hc)

theorem noCurrent (h : Actions b p q) : Actions b p (q.pdSetInputCurrentLimit 0 0) :=
  h.tail (.noCurrent q)

theorem resetMsgId (h : Actions b p q) : Actions b p q.resetMsgId :=
  (h.call (c := .msgIdReset) rfl).tail (.msgId _ (by decide))

theorem setFlags (h : Actions b p q) (flags : PdFlags) : Actions b p (q.setFlags flags) :=
  h.assign rfl

theorem arm (h : Actions b p q) {timeout : Nat} {s : PdState} (hs : s ∈ q.pd.taskState.arms)
    (hbacked : s ≠ .srcTransition) : Actions b p (q.setStateTimeout timeout s) :=
  h.tail (.arm q hs hbacked)

/-! Calls into the port controller. -/

theorem presentRp (h : Actions b p q) : Actions b p (q.tcpmSetCc .rp) :=
  h.tail (.present q (.inl rfl))

theorem presentRd (h : Actions b p q) : Actions b p (q.tcpmSetCc .rd) :=
  h.tail (.present q (.inr rfl))

theorem pdUpdateRoles (h : Actions b p q) : Actions b p q.pdUpdateRoles :=
  h.tail (.roles q _ _)

theorem tcpmSetRxEnable (h : Actions b p q) (enable : Bool) :
    Actions b p (q.tcpmSetRxEnable enable) :=
  h.tail (.rxEnable q enable)

theorem tcpmGetCc (h : Actions b p q) (reading : CcReading) :
    Actions b p (q.tcpmGetCc reading) :=
  h.tail (.measure q reading)

theorem pdPowerSupplyReset (h : Actions b p q) : Actions b p q.pdPowerSupplyReset :=
  h.call rfl

theorem pdSetPowerSupplyReady (h : Actions b p q) : Actions b p q.pdSetPowerSupplyReady.2 :=
  h.call rfl

theorem pdSetDataRole (h : Actions b p q) (role : DataRole) :
    Actions b p (q.pdSetDataRole role) :=
  (h.assign (r := q.modifyPd fun pd => { pd with dataRole := role }) rfl).pdUpdateRoles

/-! Transmissions. -/

theorem sendControl (h : Actions b p q) {type : CtrlMsgType}
    (htype : type ≠ .goodCrc ∧ type ≠ .psRdy) : Actions b p (q.sendControl type).2 := by
  refine h.tail (.send q [] type.toNat_lt (fun _ => ?_) (fun _ hpsRdy => ?_) (.inl (Nat.zero_le 7)))
  · cases type <;> first | decide | exact absurd rfl htype.1
  · cases type <;> first | exact absurd rfl htype.2 | cases hpsRdy

theorem sendPsRdy (h : Actions b p q) (hs : q.pd.taskState.backed = true) :
    Actions b p (q.sendControl .psRdy).2 :=
  h.tail (.send q [] (by decide) (fun _ => by decide) (fun _ _ => hs) (.inl (Nat.zero_le 7)))

theorem sendSourceCap (h : Actions b p q) : Actions b p (q.sendSourceCap b).2 := by
  unfold Port.sendSourceCap
  by_cases hnone : b.srcPdo.length = 0
  · rw [if_pos hnone, ← hnone]
    exact h.tail (.send q b.srcPdo (by decide) (fun _ => by decide) (fun _ h => by cases h)
      (.inr (.inl rfl)))
  · have hsome : b.srcPdo ≠ [] := fun hnil => hnone (congrArg List.length hnil)
    rw [if_neg hnone]
    exact h.tail (.send q b.srcPdo (by decide) (fun hnil => absurd hnil hsome)
      (fun hnil => absurd hnil hsome) (.inr (.inl rfl)))

theorem sendSinkCap (h : Actions b p q) : Actions b p (q.sendSinkCap b) :=
  h.tail (.send q b.snkPdo (by decide) (fun _ => by decide) (fun _ h => by cases h)
    (.inr (.inr rfl)))

theorem sendRequest (h : Actions b p q) (rdo : Word) : Actions b p (q.sendRequest rdo).2 :=
  h.tail (.send q [rdo] (by decide) (fun hnil => by cases hnil) (fun hnil => by cases hnil)
    (.inl (by simp)))

/-! State changes and resets. -/

/-- A change to the state that the timer leads to, or to one that is entered from here. -/
theorem changeState (h : Actions b p q) {s : PdState}
    (hs : s = q.pd.timeoutState ∨ q.pd.taskState.enters s = true) :
    Actions b p (q.setState s) := by
  unfold Port.setState
  simp only
  split_ifs with hsame htoggle hdetached
  · refine h.tail (.enter hs (fun hd => ?_) (by rfl))
    rw [hsame]
    exact hd
  · refine h.tail (.enter hs (fun _ => ?_) (by rfl))
    rcases htoggle with ⟨hlast, -⟩ | ⟨hlast, -⟩
    · rw [hlast]
      rfl
    · rw [hlast]
      rfl
  · have hentered := h.tail (.disconnect (s := s) q (by
      rcases hdetached with rfl | rfl
      · rfl
      · rfl))
    unfold Port.enterDisconnected
    refine .tcpmSetRxEnable ?_ false
    split_ifs
    · exact hentered.pdPowerSupplyReset
    · exact hentered
  · refine h.tail (.enter hs (fun hd => absurd ?_ hdetached) (by rfl))
    simpa [PdState.detached, or_comm] using hd

theorem setState (h : Actions b p q) {s : PdState} (hs : q.pd.taskState.enters s = true) :
    Actions b p (q.setState s) :=
  h.changeState (.inr hs)

/-- The states that are entered from everywhere. -/
theorem setStateAny (h : Actions b p q) {s : PdState} (hs : ∀ t : PdState, t.enters s = true) :
    Actions b p (q.setState s) :=
  h.setState (hs _)

theorem pdExecuteHardReset (h : Actions b p q) (now : Nat) :
    Actions b p (q.pdExecuteHardReset now) := by
  have hstart : Actions b p ((q.record .executeHardReset).resetMsgId.setLast .hardResetExecute) :=
    (h.call (c := .executeHardReset) rfl).resetMsgId.assign rfl
  have hrecover : ∀ {r}, Actions b p r →
      Actions b p (r.modifyPd fun pd => { pd with srcRecover := now + pdTSrcRecover }) :=
    fun hr => hr.assign rfl
  unfold Port.pdExecuteHardReset
  simp only
  split_ifs
  · exact hstart.presentRd.pdPowerSupplyReset.noCurrent.setStateAny fun _ => rfl
  · exact (hrecover hstart.presentRd.pdPowerSupplyReset.pdPowerSupplyReset).setStateAny fun _ => rfl
  · exact hstart.noCurrent.setStateAny fun _ => rfl
  · exact (hrecover hstart.pdPowerSupplyReset).setStateAny fun _ => rfl

theorem executeSoftReset (h : Actions b p q) : Actions b p q.executeSoftReset :=
  h.resetMsgId.setState (q.resetMsgId.enters_dualRoleIfElse rfl rfl)

theorem pdDrSwap (h : Actions b p q) : Actions b p q.pdDrSwap :=
  (h.pdSetDataRole _).setFlags _

/-! Requests. -/

theorem pdSendRequestMsg (h : Actions b p q) (hs : q.pd.taskState.enters .snkRequested = true)
    (always : Bool) : Actions b p (q.pdSendRequestMsg always).2 := by
  have hclear : Actions b p q.clearNewPowerRequest := h.assign rfl
  have hsent := ((hclear.tail (.plan _ ⟨_, rfl⟩)).sendRequest
    (requestObject q.st.sourceCapCurrentIndex (q.st.srcCap q.st.sourceCapCurrentIndex)).rdo :
      Actions b p ((q.clearNewPowerRequest.setRequestedPower
        (requestObject q.st.sourceCapCurrentIndex
          (q.st.srcCap q.st.sourceCapCurrentIndex)).currLimit
        (requestObject q.st.sourceCapCurrentIndex
          (q.st.srcCap q.st.sourceCapCurrentIndex)).supplyVoltage).sendRequest _).2)
  rw [Port.pdSendRequestMsg_eq]
  unfold Port.sendBuiltRequest
  simp only
  split_ifs
  · exact hclear
  · exact hsent
  · exact hsent.setState hs

theorem pdUpdatePdoFlags (h : Actions b p q) (pdo : Word) :
    Actions b p (q.pdUpdatePdoFlags pdo) := by
  unfold Port.pdUpdatePdoFlags
  split_ifs
  · exact h
  · exact h.setFlags _

theorem pdProcessSourceCap (h : Actions b p q) (hs : q.pd.taskState.draws = true)
    {srcCaps : List Word} (hlen : srcCaps.length ≤ 7) :
    Actions b p (q.pdProcessSourceCap srcCaps) :=
  (h.tail (.store q hlen)).tail (.limit _ (.inl ⟨_, rfl⟩) hs)

/-! Vendor defined messages. -/

theorem pdSendVdm (h : Actions b p q) (vid cmd : Word) (data : List Word) :
    Actions b p (q.pdSendVdm vid cmd data) := by
  unfold Port.pdSendVdm
  split
  · exact h
  · exact h.tail (.queue q _ (by omega))

theorem handleVdmRequest (h : Actions b p q) (now : Nat) (payload : List Word) :
    Actions b p (q.handleVdmRequest now payload) := by
  unfold Port.handleVdmRequest
  simp only [pdSvdm, pdCustomVdm, ite_self]
  split_ifs
  · exact h.assign rfl
  · exact h.assign rfl
  · exact h

theorem sendQueuedVdm (h : Actions b p q) (now : Nat) : Actions b p (q.sendQueuedVdm now) := by
  have hsent := h.tail (.sendVdm q)
  unfold Port.sendQueuedVdm
  simp only
  split_ifs
  · exact hsent.assign rfl
  · exact hsent.assign rfl

theorem pdVdmSendStateMachine (h : Actions b p q) (now : Nat) :
    Actions b p (q.pdVdmSendStateMachine now) := by
  unfold Port.pdVdmSendStateMachine
  split
  · split_ifs
    · exact h
    · exact h.sendQueuedVdm now
    · exact h.assign rfl
  · split_ifs
    · exact h.tail (.retry q)
    · exact h
  · split_ifs
    · exact h.assign rfl
    · exact h
  · exact h

end Actions

end UsbPd
