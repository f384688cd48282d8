import UsbPd.Control.Operations

/-!
# What the port depends on

Two ports with the same data and with chips whose CC block is in the same state
behave alike: neither the log nor the contents of the registers is ever read back
to decide anything.
-/

namespace UsbPd

namespace Fusb302

/-- The parts of the chip's state that its measurements depend on. -/
structure Alike (c d : Fusb302) : Prop where
  ccPolarity : d.ccPolarity = c.ccPolarity
  vconnEnabled : d.vconnEnabled = c.vconnEnabled
  pullingUp : d.pullingUp = c.pullingUp

namespace Alike

variable {c d e : Fusb302}

theorem refl (c : Fusb302) : Alike c c := ⟨rfl, rfl, rfl⟩

theorem trans (h : Alike c d) (h' : Alike d e) : Alike c e :=
  ⟨h'.ccPolarity.trans h.ccPolarity, h'.vconnEnabled.trans h.vconnEnabled,
    h'.pullingUp.trans h.pullingUp⟩

theorem symm (h : Alike c d) : Alike d c :=
  ⟨h.ccPolarity.symm, h.vconnEnabled.symm, h.pullingUp.symm⟩

theorem transmit (c : Fusb302) (type : TransmitType) : Alike c (c.transmit type) := by
  cases type <;> exact ⟨rfl, rfl, rfl⟩

theorem setMsgHeader (c : Fusb302) (prole drole : Bool) : Alike c (c.setMsgHeader prole drole) :=
  ⟨rfl, rfl, rfl⟩

theorem setRxEnable (c : Fusb302) (enable : Bool) : Alike c (c.setRxEnable enable).2 := by
  unfold Fusb302.setRxEnable
  simp only
  split_ifs <;> exact ⟨rfl, rfl, rfl⟩

theorem setCc (h : Alike c d) (pull : CcPull) : Alike (c.setCc pull).2 (d.setCc pull).2 := by
  cases pull with
  | ra => exact h
  | _ => exact ⟨h.ccPolarity, h.vconnEnabled, rfl⟩

theorem setPolarity (h : Alike c d) (polarity : Int) :
    Alike (c.setPolarity polarity) (d.setPolarity polarity) :=
  ⟨rfl, h.vconnEnabled, h.pullingUp⟩

theorem measureCcPinSource (c : Fusb302) (pin2 : Bool) (vnc rd : BitVec 8) :
    Alike c (c.measureCcPinSource pin2 vnc rd).2 := by
  unfold Fusb302.measureCcPinSource
  simp only
  split_ifs <;> exact ⟨rfl, rfl, rfl⟩

theorem measureCcPinSource_fst (c d : Fusb302) (pin2 : Bool) (vnc rd : BitVec 8) :
    (d.measureCcPinSource pin2 vnc rd).1 = (c.measureCcPinSource pin2 vnc rd).1 := by
  unfold Fusb302.measureCcPinSource
  simp only
  split_ifs <;> rfl

theorem getCc (c : Fusb302) (r : CcReading) (cc1 cc2 : CcVoltage) :
    Alike c (c.getCc r cc1 cc2).2.2 := by
  unfold Fusb302.getCc detectCcPinSourceManual
  split_ifs
  · exact measureCcPinSource c _ _ _
  · exact measureCcPinSource c _ _ _
  · exact (measureCcPinSource c _ _ _).trans (measureCcPinSource _ _ _ _)
  · exact ⟨rfl, rfl, rfl⟩

theorem convertBcLvl_eq (h : d.pullingUp = c.pullingUp) (bcLvl : BitVec 8) :
    d.convertBcLvl bcLvl = c.convertBcLvl bcLvl := by
  unfold convertBcLvl
  rw [h]

/-- The measurements agree. -/
theorem getCc_eq (h : Alike c d) (r : CcReading) (cc1 cc2 : CcVoltage) :
    (d.getCc r cc1 cc2).1 = (c.getCc r cc1 cc2).1 ∧
      (d.getCc r cc1 cc2).2.1 = (c.getCc r cc1 cc2).2.1 := by
  unfold Fusb302.getCc detectCcPinSourceManual
  rw [h.pullingUp, h.vconnEnabled, h.ccPolarity]
  split_ifs
  · exact ⟨rfl, measureCcPinSource_fst c d _ _ _⟩
  · exact ⟨measureCcPinSource_fst c d _ _ _, rfl⟩
  · exact ⟨measureCcPinSource_fst c d _ _ _, measureCcPinSource_fst _ _ _ _ _⟩
  · exact ⟨convertBcLvl_eq h.pullingUp _, convertBcLvl_eq h.pullingUp _⟩

end Alike

end Fusb302

namespace Port

/-- The ports have the same data and chips that measure alike. -/
structure Alike (p q : Port) : Prop where
  pd : q.pd = p.pd
  st : q.st = p.st
  chip : p.chip.Alike q.chip

namespace Alike

variable {p q r : Port}

theorem refl (p : Port) : Alike p p := ⟨rfl, rfl, .refl _⟩

theorem trans (h : Alike p q) (h' : Alike q r) : Alike p r :=
  ⟨h'.pd.trans h.pd, h'.st.trans h.st, h.chip.trans h'.chip⟩

/-! Assignments, calls and transmissions. -/

theorem modifyPd (h : Alike p q) (f : PdProtocol → PdProtocol) :
    Alike (p.modifyPd f) (q.modifyPd f) :=
  ⟨congrArg f h.pd, h.st, h.chip⟩

theorem modifySt (h : Alike p q) (f : Statics → Statics) :
    Alike (p.modifySt f) (q.modifySt f) :=
  ⟨h.pd, congrArg f h.st, h.chip⟩

theorem record (h : Alike p q) (c d : Call) : Alike (p.record c) (q.record d) :=
  ⟨h.pd, h.st, h.chip⟩

theorem pdSetInputCurrentLimit (h : Alike p q) (ma mv ma' mv' : Nat) :
    Alike (p.pdSetInputCurrentLimit ma mv) (q.pdSetInputCurrentLimit ma' mv') :=
  h.record _ _

theorem pdPowerSupplyReset (h : Alike p q) : Alike p.pdPowerSupplyReset q.pdPowerSupplyReset :=
  h.record _ _

theorem pdSetPowerSupplyReady (h : Alike p q) :
    Alike p.pdSetPowerSupplyReady.2 q.pdSetPowerSupplyReady.2 :=
  h.record _ _

theorem setFlags (h : Alike p q) (flags : PdFlags) : Alike (p.setFlags flags) (q.setFlags flags) :=
  h.modifyPd _

theorem setTask (h : Alike p q) (s : PdState) : Alike (p.setTask s) (q.setTask s) := h.modifyPd _

theorem setLast (h : Alike p q) (s : PdState) : Alike (p.setLast s) (q.setLast s) := h.modifyPd _

theorem setPowerRole (h : Alike p q) (role : PowerRole) :
    Alike (p.setPowerRole role) (q.setPowerRole role) :=
  h.modifyPd _

theorem setStateTimeout (h : Alike p q) (timeout : Nat) (s : PdState) :
    Alike (p.setStateTimeout timeout s) (q.setStateTimeout timeout s) :=
  h.modifyPd _

theorem tcpmSetCc (h : Alike p q) (pull : CcPull) : Alike (p.tcpmSetCc pull) (q.tcpmSetCc pull) :=
  ⟨h.pd, h.st, h.chip.setCc pull⟩

theorem tcpmSetPolarity (h : Alike p q) (polarity : Bool) :
    Alike (p.tcpmSetPolarity polarity) (q.tcpmSetPolarity polarity) :=
  ⟨h.pd, h.st, h.chip.setPolarity _⟩

theorem tcpmGetCc (h : Alike p q) (m : CcReading) : Alike (p.tcpmGetCc m) (q.tcpmGetCc m) := by
  obtain ⟨hcc1, hcc2⟩ := h.chip.getCc_eq m p.st.cc1 p.st.cc2
  refine ⟨h.pd, ?_, ?_⟩
  · unfold Port.tcpmGetCc
    simp only [modifySt_st, modifyChip_st, h.st, hcc1, hcc2]
  · have hp := Fusb302.Alike.getCc p.chip m p.st.cc1 p.st.cc2
    have hq := Fusb302.Alike.getCc q.chip m q.st.cc1 q.st.cc2
    exact (hp.symm.trans h.chip).trans hq

theorem tcpmSetRxEnable (h : Alike p q) (enable : Bool) :
    Alike (p.tcpmSetRxEnable enable) (q.tcpmSetRxEnable enable) := by
  have hset : ∀ r : Port, r.chip.Alike (r.tcpmSetRxEnable enable).chip := by
    intro r
    unfold Port.tcpmSetRxEnable
    simp only
    split <;> exact .setRxEnable r.chip enable
  exact ⟨by simpa using h.pd, by simpa using h.st, ((hset p).symm.trans h.chip).trans (hset q)⟩

/-- The header and the data of a transmission do not matter. -/
theorem transmit (h : Alike p q) (type type' : TransmitType) (header header' : BitVec 16)
    (data data' : List Word) :
    Alike (p.pdTransmit type header data).2 (q.pdTransmit type' header' data').2 :=
  ⟨h.pd, h.st, ((Fusb302.Alike.transmit p.chip type).symm.trans h.chip).trans
    (.transmit q.chip type')⟩

/-- A transmission alone changes nothing that matters. -/
theorem transmitted (p : Port) (type : TransmitType) (header : BitVec 16) (data : List Word) :
    Alike p (p.pdTransmit type header data).2 :=
  ⟨rfl, rfl, .transmit p.chip type⟩

theorem transmit_fst (h : Alike p q) (type type' : TransmitType) (header header' : BitVec 16)
    (data data' : List Word) :
    (q.pdTransmit type' header' data').1 = (p.pdTransmit type header data).1 := by
  unfold pdTransmit
  rw [h.pd]
  rfl

theorem sendControl (h : Alike p q) (type : CtrlMsgType) :
    Alike (p.sendControl type).2 (q.sendControl type).2 :=
  h.transmit _ _ _ _ _ _

theorem sendControl_fst (h : Alike p q) (type : CtrlMsgType) :
    (q.sendControl type).1 = (p.sendControl type).1 :=
  h.transmit_fst _ _ _ _ _ _

theorem sendSourceCap (h : Alike p q) (b : Board) :
    Alike (p.sendSourceCap b).2 (q.sendSourceCap b).2 := by
  unfold Port.sendSourceCap
  split
  · exact h.transmit _ _ _ _ _ _
  · exact h.transmit _ _ _ _ _ _

theorem sendSourceCap_fst (h : Alike p q) (b : Board) :
    (q.sendSourceCap b).1 = (p.sendSourceCap b).1 := by
  unfold Port.sendSourceCap
  split
  · exact h.transmit_fst _ _ _ _ _ _
  · exact h.transmit_fst _ _ _ _ _ _

theorem resetMsgId (h : Alike p q) : Alike p.resetMsgId q.resetMsgId := (h.record _ _).modifyPd _

theorem pdUpdateRoles (h : Alike p q) : Alike p.pdUpdateRoles q.pdUpdateRoles :=
  ⟨h.pd, h.st, ((Fusb302.Alike.setMsgHeader p.chip _ _).symm.trans h.chip).trans
    (.setMsgHeader q.chip _ _)⟩

theorem pdSetDataRole (h : Alike p q) (role : DataRole) :
    Alike (p.pdSetDataRole role) (q.pdSetDataRole role) :=
  (h.modifyPd _).pdUpdateRoles

/-! State changes and resets. -/

theorem enterDisconnected (h : Alike p q) : Alike p.enterDisconnected q.enterDisconnected := by
  have hlimit := h.pdSetInputCurrentLimit 0 0 0 0
  unfold Port.enterDisconnected
  simp only
  rw [hlimit.pd]
  split_ifs
  · exact hlimit.pdPowerSupplyReset.tcpmSetRxEnable false
  · exact hlimit.tcpmSetRxEnable false

theorem setState (h : Alike p q) (s : PdState) : Alike (p.setState s) (q.setState s) := by
  have hgoto := (h.setStateTimeout 0 .disabled).setTask s
  unfold Port.setState
  simp only [h.pd]
  split_ifs
  · exact hgoto
  · exact hgoto
  · exact hgoto.enterDisconnected
  · exact hgoto

theorem restored (h : Alike p q) :
    Alike
      (if p.pd.taskState = .snkSwapStandby ∨ p.pd.taskState = .snkSwapComplete then
        (p.tcpmSetCc .rd).pdPowerSupplyReset else p)
      (if q.pd.taskState = .snkSwapStandby ∨ q.pd.taskState = .snkSwapComplete then
        (q.tcpmSetCc .rd).pdPowerSupplyReset else q) := by
  rw [h.pd]
  split_ifs
  · exact (h.tcpmSetCc .rd).pdPowerSupplyReset
  · exact h

theorem pdExecuteHardReset (h : Alike p q) (now : Nat) :
    Alike (p.pdExecuteHardReset now) (q.pdExecuteHardReset now) := by
  have hstart := (h.record .executeHardReset .executeHardReset).resetMsgId.setLast
    .hardResetExecute
  have hrestored := hstart.restored
  unfold Port.pdExecuteHardReset
  simp only
  generalize (p.record .executeHardReset).resetMsgId.setLast .hardResetExecute = p' at *
  generalize (q.record .executeHardReset).resetMsgId.setLast .hardResetExecute = q' at *
  generalize (if p'.pd.taskState = .snkSwapStandby ∨ p'.pd.taskState = .snkSwapComplete then
    (p'.tcpmSetCc .rd).pdPowerSupplyReset else p') = p'' at *
  generalize (if q'.pd.taskState = .snkSwapStandby ∨ q'.pd.taskState = .snkSwapComplete then
    (q'.tcpmSetCc .rd).pdPowerSupplyReset else q') = q'' at *
  rw [hrestored.pd]
  split_ifs
  · exact (hrestored.pdSetInputCurrentLimit 0 0 0 0).setState _
  · exact (hrestored.pdPowerSupplyReset.modifyPd _).setState _

theorem armOnEntry (h : Alike p q) (timeout : Nat) (s : PdState) :
    Alike (p.armOnEntry timeout s) (q.armOnEntry timeout s) := by
  unfold Port.armOnEntry entering
  rw [h.pd]
  split_ifs
  · exact h.setStateTimeout _ _
  · exact h

/-- A transmission that fails or not in both. -/
theorem sent {c : Int × Port} {d : Int × Port} (hres : d.1 = c.1) (h : Alike c.2 d.2)
    {s t : PdState} :
    Alike (if 0 ≤ c.1 then c.2.setState s else c.2.setState t)
      (if 0 ≤ d.1 then d.2.setState s else d.2.setState t) := by
  rw [hres]
  split_ifs
  · exact h.setState s
  · exact h.setState t

theorem sendBuiltRequest (h : Alike p q) (always : Bool) (req : PowerRequest) :
    (q.sendBuiltRequest always req).1 = (p.sendBuiltRequest always req).1 ∧
      Alike (p.sendBuiltRequest always req).2 (q.sendBuiltRequest always req).2 := by
  have hset : Alike (p.setRequestedPower req.currLimit req.supplyVoltage)
      (q.setRequestedPower req.currLimit req.supplyVoltage) := h.modifyPd _
  have hres := hset.transmit_fst .sop .sop ((p.setRequestedPower req.currLimit
    req.supplyVoltage).header DataMsgType.request.toNat 1) ((q.setRequestedPower req.currLimit
    req.supplyVoltage).header DataMsgType.request.toNat 1) [req.rdo] [req.rdo]
  have hsent := hset.transmit .sop .sop ((p.setRequestedPower req.currLimit
    req.supplyVoltage).header DataMsgType.request.toNat 1) ((q.setRequestedPower req.currLimit
    req.supplyVoltage).header DataMsgType.request.toNat 1) [req.rdo] [req.rdo]
  unfold Port.sendBuiltRequest sendRequest
  simp only
  rw [hres, h.pd]
  split_ifs
  · exact ⟨rfl, h⟩
  · exact ⟨hres, hsent⟩
  · exact ⟨rfl, hsent.setState _⟩

theorem pdSendRequestMsg (h : Alike p q) (always : Bool) :
    (q.pdSendRequestMsg always).1 = (p.pdSendRequestMsg always).1 ∧
      Alike (p.pdSendRequestMsg always).2 (q.pdSendRequestMsg always).2 := by
  rw [pdSendRequestMsg_eq, pdSendRequestMsg_eq, h.st]
  exact sendBuiltRequest (p := p.clearNewPowerRequest) (q := q.clearNewPowerRequest)
    (h.modifyPd _) always _

theorem pdSendVdm (h : Alike p q) (vid cmd : Word) (data : List Word) :
    Alike (p.pdSendVdm vid cmd data) (q.pdSendVdm vid cmd data) := by
  unfold Port.pdSendVdm
  split
  · exact h
  · exact h.modifyPd _

/-! The states of a source. -/

theorem srcDisconnected (h : Alike p q) (inp : Input) :
    Alike (p.srcDisconnected inp) (q.srcDisconnected inp) := by
  have hm := h.tcpmGetCc inp.cc
  unfold Port.srcDisconnected
  simp only
  generalize p.tcpmGetCc inp.cc = p' at *
  generalize q.tcpmGetCc inp.cc = q' at *
  rw [hm.pd, hm.st]
  split_ifs
  · exact (hm.modifyPd _).setState _
  · exact ((((hm.setPowerRole _).setState _).tcpmSetCc _).modifySt _).modifyPd _
  · exact hm

theorem attachSink (h : Alike p q) (newCcState : CcState) :
    Alike (p.attachSink newCcState) (q.attachSink newCcState) := by
  have hset := (h.modifyPd fun pd => { pd with polarity := decide (p.st.cc1 ≠ .rd) })
  unfold Port.attachSink
  simp only [pdSetPowerSupplyReady_fst, ne_eq, not_true_eq_false, if_false, pdCommIsEnabled,
    if_true]
  rw [h.st]
  generalize (p.modifyPd fun pd => { pd with polarity := decide (¬ p.st.cc1 = .rd) }) = p' at *
  generalize (q.modifyPd fun pd => { pd with polarity := decide (¬ p.st.cc1 = .rd) }) = q' at *
  rw [hset.pd]
  have hrole := (hset.tcpmSetPolarity p'.pd.polarity).pdSetDataRole .dfp
  generalize (p'.tcpmSetPolarity p'.pd.polarity).pdSetDataRole .dfp = p₁ at *
  generalize (q'.tcpmSetPolarity p'.pd.polarity).pdSetDataRole .dfp = q₁ at *
  rw [hrole.pd]
  split_ifs
  · have hready := ((hrole.setFlags { p₁.pd.flags with tsDtsPartner := true }).pdSetPowerSupplyReady
      ).tcpmSetRxEnable true
    rw [hready.pd]
    exact ((hready.setFlags _).modifySt _).setState _
  · have hready := hrole.pdSetPowerSupplyReady.tcpmSetRxEnable true
    rw [hready.pd]
    exact ((hready.setFlags _).modifySt _).setState _

theorem srcDisconnectedDebounce (h : Alike p q) (inp : Input) :
    Alike (p.srcDisconnectedDebounce inp) (q.srcDisconnectedDebounce inp) := by
  have hm := h.tcpmGetCc inp.cc
  unfold Port.srcDisconnectedDebounce
  simp only
  generalize p.tcpmGetCc inp.cc = p' at *
  generalize q.tcpmGetCc inp.cc = q' at *
  have hcc : q'.srcCcState = p'.srcCcState := by
    unfold srcCcState
    rw [hm.st]
  rw [hcc, hm.pd]
  split
  · exact hm.setState _
  · split_ifs
    · exact hm.modifyPd _
    · exact hm
    · exact hm.attachSink _
    · exact hm

theorem srcHardResetRecover (h : Alike p q) (inp : Input) :
    Alike (p.srcHardResetRecover inp) (q.srcHardResetRecover inp) := by
  unfold Port.srcHardResetRecover
  simp only [pdSetPowerSupplyReady_fst, ne_eq, not_true_eq_false, if_false]
  rw [h.pd]
  split_ifs
  · exact h
  · exact h.pdSetPowerSupplyReady.setState _

theorem srcStartup (h : Alike p q) (inp : Input) :
    Alike (p.srcStartup inp) (q.srcStartup inp) := by
  unfold Port.srcStartup entering
  rw [h.pd]
  split_ifs
  · exact (((h.setFlags _).resetMsgId).modifySt _).setStateTimeout _ _
  · exact h

theorem sendCaps (h : Alike p q) (b : Board) :
    Alike
      (if 0 ≤ (p.sendSourceCap b).1 then
        (((p.sendSourceCap b).2.setState .srcNegociate).modifySt fun st =>
          { st with hardResetCount := 0, capsCount := 0 }).setFlags
            { (((p.sendSourceCap b).2.setState .srcNegociate).modifySt fun st =>
              { st with hardResetCount := 0, capsCount := 0 }).pd.flags with previousPdConn := true }
      else (p.sendSourceCap b).2.modifySt fun st => { st with capsCount := st.capsCount + 1 })
      (if 0 ≤ (q.sendSourceCap b).1 then
        (((q.sendSourceCap b).2.setState .srcNegociate).modifySt fun st =>
          { st with hardResetCount := 0, capsCount := 0 }).setFlags
            { (((q.sendSourceCap b).2.setState .srcNegociate).modifySt fun st =>
              { st with hardResetCount := 0, capsCount := 0 }).pd.flags with previousPdConn := true }
      else (q.sendSourceCap b).2.modifySt fun st => { st with capsCount := st.capsCount + 1 }) := by
  have hsent := h.sendSourceCap b
  have hstate := (hsent.setState .srcNegociate).modifySt fun st =>
    { st with hardResetCount := 0, capsCount := 0 }
  rw [h.sendSourceCap_fst b, hstate.pd]
  split_ifs
  · exact hstate.setFlags _
  · exact hsent.modifySt _

theorem srcDiscovery (h : Alike p q) (b : Board) (inp : Input) :
    Alike (p.srcDiscovery b inp) (q.srcDiscovery b inp) := by
  have harmed : Alike
      (if p.entering = true ∧ p.pd.flags.previousPdConn = true then
        p.setStateTimeout (inp.time .switch + pdTNoResponse)
          (if p.st.hardResetCount < pdHardResetCount then .hardResetSend else .srcDisconnected)
      else p)
      (if q.entering = true ∧ q.pd.flags.previousPdConn = true then
        q.setStateTimeout (inp.time .switch + pdTNoResponse)
          (if q.st.hardResetCount < pdHardResetCount then .hardResetSend else .srcDisconnected)
      else q) := by
    unfold entering
    rw [h.pd, h.st]
    split_ifs
    · exact h.setStateTimeout _ _
    · exact h.setStateTimeout _ _
    · exact h
  unfold Port.srcDiscovery
  simp only
  generalize (if p.entering = true ∧ p.pd.flags.previousPdConn = true then
        p.setStateTimeout (inp.time .switch + pdTNoResponse)
          (if p.st.hardResetCount < pdHardResetCount then .hardResetSend else .srcDisconnected)
      else p) = p' at *
  generalize (if q.entering = true ∧ q.pd.flags.previousPdConn = true then
        q.setStateTimeout (inp.time .switch + pdTNoResponse)
          (if q.st.hardResetCount < pdHardResetCount then .hardResetSend else .srcDisconnected)
      else q) = q' at *
  rw [harmed.st]
  by_cases hcount : p'.st.capsCount < pdCapsCount
  · rw [if_pos hcount, if_pos hcount]
    exact harmed.sendCaps b
  · rw [if_neg hcount, if_neg hcount]
    exact harmed

theorem srcPowered (h : Alike p q) (inp : Input) :
    Alike (p.srcPowered inp) (q.srcPowered inp) := by
  unfold Port.srcPowered entering pdTransitionVoltage
  rw [h.pd]
  split_ifs
  · exact (h.record _ _).setStateTimeout _ _
  · exact h

theorem srcTransition (h : Alike p q) : Alike p.srcTransition q.srcTransition :=
  sent (h.sendControl_fst .psRdy) (h.sendControl .psRdy)

theorem srcPing (h : Alike p q) : Alike p.srcPing q.srcPing := by
  have hping := h.sendControl .ping
  unfold Port.srcPing
  simp only
  rw [h.pd, h.sendControl_fst]
  split_ifs
  · exact hping
  · exact hping.setState _
  · exact h

/-- The policy checks, with what is done when none is pending. -/
theorem readyChecks (h : Alike p q) {p' q' : Port} (h' : Alike p' q') :
    Alike (p.readyChecks.getD p') (q.readyChecks.getD q') := by
  have hvdm := h.pdSendVdm usbSidPd cmdDiscoverIdent []
  unfold Port.readyChecks
  simp only [pdCheckPrRole_eq, pdCheckDrRole_eq]
  rw [h.pd, hvdm.pd]
  split_ifs
  · exact h.setFlags _
  · exact h.setFlags _
  · exact hvdm.setFlags _
  · exact h'

theorem srcReady (h : Alike p q) (b : Board) : Alike (p.srcReady b) (q.srcReady b) := by
  have hcaps := h.sendSourceCap b
  have hstate := hcaps.setState .srcNegociate
  unfold Port.srcReady
  simp only
  rw [h.pd, h.st, h.sendSourceCap_fst b, hstate.pd]
  split_ifs
  · exact h
  · exact hstate.setFlags _
  · exact hcaps
  · exact ((h.modifySt _).sendControl _).setState _
  · exact h.readyChecks h.srcPing
  · exact (h.modifySt _).readyChecks (h.modifySt _).srcPing

theorem readyReturnState (h : Alike p q) : q.readyReturnState = p.readyReturnState := by
  unfold Port.readyReturnState dualRoleIfElse
  rw [h.pd]

theorem sendOnEntry (h : Alike p q) (inp : Input) (type : CtrlMsgType) (back : PdState) :
    Alike (p.sendOnEntry inp type back) (q.sendOnEntry inp type back) := by
  have hsent := h.sendControl type
  unfold Port.sendOnEntry entering
  simp only
  rw [h.pd, h.sendControl_fst]
  split_ifs
  · exact hsent.setState _
  · exact hsent.setState _
  · exact hsent.setStateTimeout _ _
  · exact h

theorem srcSwapSrcDisable (h : Alike p q) (inp : Input) :
    Alike (p.srcSwapSrcDisable inp) (q.srcSwapSrcDisable inp) := by
  unfold Port.srcSwapSrcDisable entering
  rw [h.pd]
  split_ifs
  · exact h.pdPowerSupplyReset.setStateTimeout _ _
  · exact h

theorem srcSwapStandby (h : Alike p q) (inp : Input) :
    Alike (p.srcSwapStandby inp) (q.srcSwapStandby inp) := by
  have hsent := h.sendControl .psRdy
  unfold Port.srcSwapStandby entering
  simp only
  rw [h.pd, h.sendControl_fst]
  split_ifs
  · exact hsent.setState _
  · exact ((hsent.tcpmSetCc _).setPowerRole _).setStateTimeout _ _
  · exact h

/-! The states of a sink. -/

theorem suspended (h : Alike p q) : Alike p.suspended q.suspended := by
  unfold Port.suspended
  simp only [Fusb302.release, ne_eq, not_true_eq_false, false_and, if_false]
  exact (h.modifyPd _).setState _

theorem snkDisconnected (h : Alike p q) (inp : Input) :
    Alike (p.snkDisconnected inp) (q.snkDisconnected inp) := by
  have hm := h.tcpmGetCc inp.cc
  unfold Port.snkDisconnected
  simp only
  generalize p.tcpmGetCc inp.cc = p' at *
  generalize q.tcpmGetCc inp.cc = q' at *
  rw [hm.pd, hm.st]
  split_ifs
  · exact ((hm.modifyPd _).modifySt _).setState _
  · exact hm.setFlags _
  · exact hm
  · exact (((hm.setPowerRole _).setState _).tcpmSetCc _).modifySt _
  · exact hm

theorem attachSource (h : Alike p q) (newCcState : CcState) :
    Alike (p.attachSource newCcState) (q.attachSource newCcState) := by
  have hset := h.modifyPd fun pd => { pd with polarity := getSnkPolarity p.st.cc1 p.st.cc2 }
  unfold Port.attachSource
  simp only [pdCommIsEnabled, if_true]
  rw [h.st]
  generalize (p.modifyPd fun pd => { pd with polarity := getSnkPolarity p.st.cc1 p.st.cc2 }) = p'
    at *
  generalize (q.modifyPd fun pd => { pd with polarity := getSnkPolarity p.st.cc1 p.st.cc2 }) = q'
    at *
  rw [hset.pd]
  have hrole := (hset.tcpmSetPolarity p'.pd.polarity).resetMsgId.pdSetDataRole .ufp
  generalize (p'.tcpmSetPolarity p'.pd.polarity).resetMsgId.pdSetDataRole .ufp = p₁ at *
  generalize (q'.tcpmSetPolarity p'.pd.polarity).resetMsgId.pdSetDataRole .ufp = q₁ at *
  rw [hrole.pd, hrole.st]
  have hrx := (hrole.modifySt fun st => { st with
    typecCurr := getTypecCurrentLimit p₁.pd.polarity p₁.st.cc1 p₁.st.cc2 }).tcpmSetRxEnable true
  generalize ((p₁.modifySt fun st => { st with
    typecCurr := getTypecCurrentLimit p₁.pd.polarity p₁.st.cc1 p₁.st.cc2 }).tcpmSetRxEnable
      true) = p₂ at *
  generalize ((q₁.modifySt fun st => { st with
    typecCurr := getTypecCurrentLimit p₁.pd.polarity p₁.st.cc1 p₁.st.cc2 }).tcpmSetRxEnable
      true) = q₂ at *
  rw [hrx.pd]
  have hflags := hrx.setFlags { p₂.pd.flags with
    checkPrRole := true, checkDrRole := true, checkIdentity := true }
  rw [hflags.pd]
  split_ifs
  · exact ((hflags.setFlags _).sendControl _).setState _
  · exact (hflags.sendControl _).setState _
  · exact hrx

theorem snkDisconnectedDebounce (h : Alike p q) (inp : Input) :
    Alike (p.snkDisconnectedDebounce inp) (q.snkDisconnectedDebounce inp) := by
  have hm := h.tcpmGetCc inp.cc
  unfold Port.snkDisconnectedDebounce
  simp only [pdTrySrcEnable, Bool.false_eq_true, false_and, if_false]
  generalize p.tcpmGetCc inp.cc = p' at *
  generalize q.tcpmGetCc inp.cc = q' at *
  have hcc : q'.snkCcState = p'.snkCcState := by
    unfold snkCcState
    rw [hm.st]
  rw [hcc, hm.pd]
  split
  · exact hm.setState _
  · split_ifs
    · exact hm.modifyPd _
    · exact hm
    · exact hm.attachSource _

theorem snkHardResetRecover (h : Alike p q) (inp : Input) :
    Alike (p.snkHardResetRecover inp) (q.snkHardResetRecover inp) := by
  have hentered : Alike
      (if p.entering = true then
        ((p.setFlags { p.pd.flags with checkIdentity := true }).modifySt fun st =>
          { st with snkHardResetVbusOff := false }).setStateTimeout (inp.time .switch + pdTSafe0v)
            (if p.st.hardResetCount < pdHardResetCount then .hardResetSend else .snkDiscovery)
      else p)
      (if q.entering = true then
        ((q.setFlags { q.pd.flags with checkIdentity := true }).modifySt fun st =>
          { st with snkHardResetVbusOff := false }).setStateTimeout (inp.time .switch + pdTSafe0v)
            (if q.st.hardResetCount < pdHardResetCount then .hardResetSend else .snkDiscovery)
      else q) := by
    unfold entering
    rw [h.pd, h.st]
    split_ifs
    · exact ((h.setFlags _).modifySt _).setStateTimeout _ _
    · exact ((h.setFlags _).modifySt _).setStateTimeout _ _
    · exact h
  have hrecovered : ∀ p' q' : Port, Alike p' q' → Alike
      (if p'.st.snkHardResetVbusOff = true then p'.setState .snkDiscovery else p')
      (if q'.st.snkHardResetVbusOff = true then q'.setState .snkDiscovery else q') := by
    intro p' q' h'
    rw [h'.st]
    split_ifs
    · exact h'.setState _
    · exact h'
  unfold Port.snkHardResetRecover
  simp only [pdIsVbusPresent, not_true_eq_false, false_and, if_false, true_and]
  exact hrecovered _ _ hentered

theorem armSnkDiscovery (h : Alike p q) (inp : Input) :
    Alike (p.armSnkDiscovery inp) (q.armSnkDiscovery inp) := by
  unfold Port.armSnkDiscovery
  rw [h.pd, h.st]
  split_ifs
  · exact h.setStateTimeout _ _
  · exact h.setStateTimeout _ _
  · exact h.setStateTimeout _ _
  · exact h

theorem updateTypecCurr (h : Alike p q) (inp : Input) :
    Alike (p.updateTypecCurr inp) (q.updateTypecCurr inp) := by
  have hm := h.tcpmGetCc inp.cc
  unfold Port.updateTypecCurr
  simp only
  generalize p.tcpmGetCc inp.cc = p' at *
  generalize q.tcpmGetCc inp.cc = q' at *
  rw [hm.pd, hm.st]
  split_ifs
  · exact (hm.modifySt _).modifySt _
  · exact hm.modifySt _
  · exact hm.modifySt _

theorem snkDiscovery (h : Alike p q) (inp : Input) :
    Alike (p.snkDiscovery inp) (q.snkDiscovery inp) := by
  have harmed := h.armSnkDiscovery inp
  unfold Port.snkDiscovery entering
  simp only [pdCommIsEnabled, and_true]
  rw [h.pd, harmed.pd]
  split_ifs
  · exact (harmed.modifySt _).updateTypecCurr inp
  · exact harmed.updateTypecCurr inp
  · exact h.updateTypecCurr inp

theorem snkRequested (h : Alike p q) (inp : Input) :
    Alike (p.snkRequested inp) (q.snkRequested inp) := by
  unfold Port.snkRequested entering
  rw [h.pd]
  split_ifs
  · exact (h.modifySt _).setStateTimeout _ _
  · exact h

theorem snkReady (h : Alike p q) : Alike p.snkReady q.snkReady := by
  obtain ⟨hres, hsent⟩ := h.pdSendRequestMsg false
  unfold Port.snkReady
  simp only
  rw [h.pd, hres]
  split_ifs
  · exact h
  · exact hsent.setState _
  · exact hsent
  · exact h.readyChecks h

theorem snkSwapStandby (h : Alike p q) (inp : Input) :
    Alike (p.snkSwapStandby inp) (q.snkSwapStandby inp) := by
  unfold Port.snkSwapStandby entering
  simp only [pdSetPowerSupplyReady_fst, ne_eq, not_true_eq_false, if_false]
  rw [h.pd]
  split_ifs
  · exact ((h.tcpmSetCc _).pdSetPowerSupplyReady).setStateTimeout _ _
  · exact h

theorem snkSwapComplete (h : Alike p q) : Alike p.snkSwapComplete q.snkSwapComplete := by
  have hsent := h.sendControl .psRdy
  unfold Port.snkSwapComplete
  simp only
  rw [h.sendControl_fst]
  split_ifs
  · exact ((hsent.tcpmSetCc _).pdPowerSupplyReset).setState _
  · exact ((((hsent.modifySt _).resetMsgId).setPowerRole _).pdUpdateRoles).setState _

theorem softReset (h : Alike p q) (inp : Input) :
    Alike (p.softReset inp) (q.softReset inp) := by
  have hsent := h.resetMsgId.sendControl .softReset
  unfold Port.softReset entering
  simp only
  rw [h.pd, h.resetMsgId.sendControl_fst]
  split_ifs
  · exact hsent.setState _
  · exact hsent.setStateTimeout _ _
  · exact h

theorem sendHardReset (h : Alike p q) (inp : Input) :
    Alike (p.sendHardReset inp) (q.sendHardReset inp) := by
  have hsent := h.transmit .hardReset .hardReset 0 0 [] []
  have hres := h.transmit_fst .hardReset .hardReset 0 0 [] []
  have hmarked := hsent.modifySt fun st => { st with hardResetSent := true }
  unfold Port.sendHardReset
  simp only
  rw [h.st, hres, hmarked.pd]
  split_ifs
  · exact h
  · exact hsent
  · exact hmarked.setStateTimeout _ _
  · exact hmarked.setState _

theorem hardResetSend (h : Alike p q) (inp : Input) :
    Alike (p.hardResetSend inp) (q.hardResetSend inp) := by
  have hcounted := h.modifySt fun st => { st with
    hardResetCount := toInt32 (p.st.hardResetCount + 1),
    hardResetSent := p.st.hardResetSent && !p.entering }
  have hentering : q.entering = p.entering := by
    unfold entering
    rw [h.pd]
  unfold Port.hardResetSend
  simp only
  rw [h.st, hentering]
  generalize (p.modifySt fun st => { st with
    hardResetCount := toInt32 (p.st.hardResetCount + 1),
    hardResetSent := p.st.hardResetSent && !p.entering }) = p' at *
  generalize (q.modifySt fun st => { st with
    hardResetCount := toInt32 (p.st.hardResetCount + 1),
    hardResetSent := p.st.hardResetSent && !p.entering }) = q' at *
  rw [hcounted.pd]
  split_ifs
  · exact (hcounted.setFlags _).sendHardReset inp
  · exact hcounted.sendHardReset inp

theorem hardResetExecute (h : Alike p q) (inp : Input) :
    Alike (p.hardResetExecute inp) (q.hardResetExecute inp) := by
  unfold Port.hardResetExecute
  simp only
  rw [h.pd]
  split_ifs
  · exact (h.tcpmSetCc _).pdExecuteHardReset _
  · exact h.pdExecuteHardReset _

/-! The phases after the message. -/

theorem applySuspend (h : Alike p q) : Alike p.applySuspend q.applySuspend := by
  unfold Port.applySuspend
  rw [h.pd]
  split_ifs
  · exact h.setState _
  · exact h

theorem runState (h : Alike p q) (b : Board) (inp : Input) :
    Alike (p.runState b inp) (q.runState b inp) := by
  unfold Port.runState
  rw [h.pd]
  cases p.pd.taskState with
  | disabled => exact h
  | suspended => exact h.suspended
  | snkDisconnected => exact h.snkDisconnected inp
  | snkDisconnectedDebounce => exact h.snkDisconnectedDebounce inp
  | snkHardResetRecover => exact h.snkHardResetRecover inp
  | snkDiscovery => exact h.snkDiscovery inp
  | snkRequested => exact h.snkRequested inp
  | snkReady => exact h.snkReady
  | snkSwapSnkDisable => exact (h.pdSetInputCurrentLimit 0 0 0 0).setState _
  | snkSwapStandby => exact h.snkSwapStandby inp
  | snkSwapComplete => exact h.snkSwapComplete
  | srcDisconnected => exact h.srcDisconnected inp
  | srcDisconnectedDebounce => exact h.srcDisconnectedDebounce inp
  | srcHardResetRecover => exact h.srcHardResetRecover inp
  | srcStartup => exact h.srcStartup inp
  | srcDiscovery => exact h.srcDiscovery b inp
  | srcPowered => exact h.srcPowered inp
  | srcTransition => exact h.srcTransition
  | srcReady => exact h.srcReady b
  | drSwap =>
      unfold Port.drSwap
      rw [h.readyReturnState]
      exact h.sendOnEntry inp _ _
  | snkSwapInit => exact h.sendOnEntry inp _ _
  | srcSwapInit => exact h.sendOnEntry inp _ _
  | srcSwapSrcDisable => exact h.srcSwapSrcDisable inp
  | srcSwapStandby => exact h.srcSwapStandby inp
  | softReset => exact h.softReset inp
  | hardResetSend => exact h.hardResetSend inp
  | hardResetExecute => exact h.hardResetExecute inp
  | _ => exact h.armOnEntry _ _

theorem checkTimeout (h : Alike p q) (now : Nat) :
    Alike (p.checkTimeout now) (q.checkTimeout now) := by
  unfold Port.checkTimeout
  rw [h.pd]
  split_ifs
  · exact h.setState _
  · exact h

theorem checkSourceDetach (h : Alike p q) (inp : Input) :
    Alike (p.checkSourceDetach inp) (q.checkSourceDetach inp) := by
  have hm := h.tcpmGetCc inp.ccTail
  have hdetach : ∀ p' q' : Port, Alike p' q' → Alike
      (if p'.st.cc1 = .open then (p'.record .detach).setState .srcDisconnected else p')
      (if q'.st.cc1 = .open then (q'.record .detach).setState .srcDisconnected else q') := by
    intro p' q' h'
    rw [h'.st]
    split_ifs
    · exact (h'.record _ _).setState _
    · exact h'
  unfold Port.checkSourceDetach
  simp only [pdTrySrcEnable, Bool.false_eq_true, if_false]
  rw [h.pd, hm.pd]
  by_cases hrole : p.pd.powerRole = .source
  · rw [if_pos hrole, if_pos hrole]
    refine hdetach _ _ ?_
    split_ifs
    · exact hm.modifySt _
    · exact hm
  · rw [if_neg hrole, if_neg hrole]
    exact h

theorem finish (h : Alike p q) (thisState : PdState) (inp : Input) :
    Alike (p.finish thisState inp) (q.finish thisState inp) := by
  have hchecked := (h.setLast thisState).checkTimeout (inp.time .tail)
  unfold Port.finish pdIsConnected pdIsPowerSwapping dualRoleIfElse
  simp only [checkSinkDetach_eq]
  rw [hchecked.pd]
  split_ifs
  · exact hchecked
  · exact hchecked.checkSourceDetach inp
  · exact hchecked
  · exact hchecked.checkSourceDetach inp

end Alike

end Port

end UsbPd
