import UsbPd.Frame.Parts

/-!
# Write sets of the messages

What each message can write, by its type.
-/

namespace UsbPd

/-- What a data message writes. -/
def dataWrites : Option DataMsgType → List Part
  | some .sourceCap => [.previousPdConn, .partner, .srcCaps, .newPowerRequest, .power, .task, .timer,
      .chip, .maxIndex]
  | some .request => [.chip, .contract, .requestedIdx, .task, .timer]
  | some .bist => [.chip, .task, .timer]
  | some .sinkCap => [.snkCapRecvd, .partner, .task, .timer]
  | some .vendorDef => [.vdm]
  | none => []

/-- The calls that a data message leads to. -/
def dataCalls : Option DataMsgType → List CallKind
  | some .sourceCap => [.noCurrent, .current, .request]
  | some .request => [.accept, .sop, .contractAgreed]
  | some .bist => [.bist, .noCurrent, .vbus, .rxEnable]
  | _ => []

/-- What a control message writes. -/
def ctrlWrites : Option CtrlMsgType → List Part
  | some .getSourceCap => [.chip, .task, .timer]
  | some .getSinkCap => [.chip]
  | some .psRdy => [.role, .link, .chip, .roleBits, .task, .timer]
  | some .reject => [.task, .timer]
  | some .wait => [.task, .timer, .newPowerRequest, .power]
  | some .accept => [.vbusNeverLow, .link, .task, .timer, .dataRole, .chip, .roleBits, .identity,
      .contract]
  | some .softReset => [.link, .task, .timer, .chip]
  | some .prSwap | some .drSwap | some .vconnSwap => [.chip]
  | _ => []

/-- The calls that a control message leads to. -/
def ctrlCalls : Option CtrlMsgType → List CallKind
  | some .getSourceCap => [.caps, .sop]
  | some .getSinkCap | some .prSwap | some .drSwap | some .vconnSwap => [.sop]
  | some .psRdy => [.msgIdReset, .noCurrent, .current]
  | some .accept => [.msgIdReset, .powerSwapAccepted, .contractAgreed]
  | some .softReset => [.msgIdReset, .accept]
  | _ => []

def PdMsg.writes (m : PdMsg) : List Part :=
  if headerCnt m.head ≠ 0 then dataWrites (DataMsgType.ofField (headerType m.head))
  else ctrlWrites (CtrlMsgType.ofField (headerType m.head))

def PdMsg.calls (m : PdMsg) : List CallKind :=
  if headerCnt m.head ≠ 0 then dataCalls (DataMsgType.ofField (headerType m.head))
  else ctrlCalls (CtrlMsgType.ofField (headerType m.head))

/-- What some message writes. -/
def messageWrites : List Part :=
  [.previousPdConn, .partner, .srcCaps, .newPowerRequest, .power, .task, .timer, .chip, .maxIndex,
    .contract, .requestedIdx, .snkCapRecvd, .vdm, .role, .link, .roleBits, .vbusNeverLow,
    .dataRole, .identity]

/-- The calls that a message and its reception lead to. -/
def messageCalls : List CallKind :=
  [.received, .noCurrent, .current, .request, .accept, .sop, .contractAgreed, .bist, .vbus,
    .rxEnable, .caps, .msgIdReset, .powerSwapAccepted]

theorem dataFrame_subset : ∀ type, dataWrites type ⊆ messageWrites ∧
    dataCalls type ⊆ messageCalls := by
  intro type
  cases type with
  | none => decide
  | some type => cases type <;> decide

theorem ctrlFrame_subset : ∀ type, ctrlWrites type ⊆ messageWrites ∧
    ctrlCalls type ⊆ messageCalls := by
  intro type
  cases type with
  | none => decide
  | some type => cases type <;> decide

theorem PdMsg.writes_subset (m : PdMsg) : m.writes ⊆ messageWrites := by
  unfold writes
  split_ifs
  · exact (dataFrame_subset _).1
  · exact (ctrlFrame_subset _).1

theorem PdMsg.calls_subset (m : PdMsg) : m.calls ⊆ messageCalls := by
  unfold calls
  split_ifs
  · exact (dataFrame_subset _).2
  · exact (ctrlFrame_subset _).2

namespace Port

variable (p : Port)

/-- Nothing at all. -/
theorem does_nothing (W : List Part) (K : List CallKind) : Does W K p p :=
  Machine.Does.refl.mono ⟨List.nil_subset W, List.nil_subset K⟩

/-! Data messages. -/

theorem does_handleSourceCap (payload : List Word) :
    Does (dataWrites (some .sourceCap)) (dataCalls (some .sourceCap)) p
      (p.handleSourceCap payload) := by
  have hcallback : ∀ q : Port, Does [.maxIndex] [] q
      (q.pdProcessSourceCapCallback payload.length) := fun q =>
    .assign (by rintro ⟨⟩ hx <;> first | rfl | simp at hx) rfl
  unfold handleSourceCap
  split_ifs
  · have hstored := ((p.does_setPreviousPdConn true).trans
      (does_pdUpdatePdoFlags _ (firstObject payload))).trans (does_pdProcessSourceCap _ payload)
    exact ((hstored.trans (does_pdSendRequestMsg _ true)).trans (hcallback _)).mono (by decide)
  · exact p.does_nothing _ _

theorem does_acceptRequest (rdo : Word) :
    Does (dataWrites (some .request)) [.accept, .contractAgreed] p (p.acceptRequest rdo) := by
  have hidx : ∀ q : Port, Does [.requestedIdx] [] q
      (q.modifyPd fun pd => { pd with requestedIdx := rdoPos rdo }) := fun q =>
    .assign (by rintro ⟨⟩ hx <;> first | rfl | simp at hx) rfl
  unfold acceptRequest
  simp only
  split_ifs
  · exact p.does_sendAccept.mono (by decide)
  · have hagreed := (p.does_sendAccept.trans (does_record _ .contractAgreed)).trans
      (does_setContract _ true)
    exact ((hagreed.trans (hidx _)).trans (does_setState_of_ne _ (by decide))).mono (by decide)

theorem does_handleRequestMsg (b : Board) (payload : List Word) :
    Does (dataWrites (some .request)) (dataCalls (some .request)) p
      (p.handleRequestMsg b payload) := by
  unfold handleRequestMsg
  split_ifs
  · exact (p.does_acceptRequest _).mono (by decide)
  · have hrejected : Does [.chip] [.sop] p (p.sendControl .reject).2 :=
      p.does_sendControl (by decide)
    exact (hrejected.trans (does_setState_of_ne _ (by decide))).mono (by decide)

theorem does_handleBist (payload : List Word) :
    Does (dataWrites (some .bist)) (dataCalls (some .bist)) p (p.handleBist payload) := by
  unfold handleBist
  split_ifs
  · exact ((p.does_pdTransmit .bistMode2 0 []).trans (does_setState _ _)).mono (by decide)
  · exact p.does_nothing _ _

theorem does_handleSinkCap (payload : List Word) :
    Does (dataWrites (some .sinkCap)) (dataCalls (some .sinkCap)) p (p.handleSinkCap payload) := by
  have hrecvd : Does [.snkCapRecvd] [] p (p.setFlags { p.pd.flags with snkCapRecvd := true }) :=
    .assign (by rintro ⟨⟩ hx <;> first | rfl | simp at hx) rfl
  have hflags := hrecvd.trans (does_pdUpdatePdoFlags _ (firstObject payload))
  unfold handleSinkCap
  simp only
  split_ifs
  · exact (hflags.trans (does_setState_of_ne _ (by decide))).mono (by decide)
  · exact hflags.mono (by decide)

theorem does_handleDataRequest (b : Board) (now : Nat) (m : PdMsg) :
    Does (dataWrites (DataMsgType.ofField (headerType m.head)))
      (dataCalls (DataMsgType.ofField (headerType m.head))) p (p.handleDataRequest b now m) := by
  unfold handleDataRequest
  cases DataMsgType.ofField (headerType m.head) with
  | none => exact p.does_nothing _ _
  | some type =>
      cases type with
      | sourceCap => exact p.does_handleSourceCap _
      | request => exact p.does_handleRequestMsg b _
      | bist => exact p.does_handleBist _
      | sinkCap => exact p.does_handleSinkCap _
      | vendorDef => exact p.does_handleVdmRequest now _

/-! Control messages. -/

theorem does_handleGetSourceCap (b : Board) :
    Does (ctrlWrites (some .getSourceCap)) (ctrlCalls (some .getSourceCap)) p
      (p.handleGetSourceCap b) := by
  have hsent := p.does_sendSourceCap b
  unfold handleGetSourceCap
  simp only
  split_ifs
  · exact (hsent.trans (does_setState_of_ne _ (by decide))).mono (by decide)
  · exact hsent.mono (by decide)

theorem does_handlePsRdy :
    Does (ctrlWrites (some .psRdy)) (ctrlCalls (some .psRdy)) p p.handlePsRdy := by
  unfold handlePsRdy
  split_ifs
  · exact (p.does_setState_of_ne (by decide)).mono (by decide)
  · have hsink := (p.does_resetMsgId.trans (does_setPowerRole _ .sink)).trans
      (does_pdUpdateRoles _)
    exact (hsink.trans (does_setState_of_ne _ (by decide))).mono (by decide)
  · exact (p.does_setState_of_ne (by decide)).mono (by decide)
  · exact p.does_nothing _ _
  · exact ((p.does_setState_of_ne (by decide)).trans
      (does_pdSetInputCurrentLimit _ _ _)).mono (by decide)
  · exact p.does_nothing _ _

theorem readyReturnState_ne :
    p.readyReturnState ≠ .srcDisconnected ∧ p.readyReturnState ≠ .snkDisconnected := by
  unfold readyReturnState dualRoleIfElse
  cases p.pd.powerRole <;> exact (by decide)

theorem does_handleRejectWait (now : Nat) {wait : Bool} {W : List Part}
    (hW : [.task, .timer] ⊆ W) (hwait : wait = true → [.newPowerRequest, .power] ⊆ W) :
    Does W [] p (p.handleRejectWait now wait) := by
  have hstate : ∀ s, s ≠ .srcDisconnected ∧ s ≠ .snkDisconnected → Does W [] p (p.setState s) :=
    fun s hs => (p.does_setState_of_ne hs).mono ⟨hW, by decide⟩
  have hpending : Does [.newPowerRequest, .power] [] p
      (p.modifyPd fun pd => { pd with newPowerRequest := true, prevRequestMv := 0 }) :=
    .assign (by rintro ⟨⟩ hx <;> first | rfl | simp at hx) rfl
  unfold handleRejectWait
  split_ifs with h₁ h₂ h₃ h₄ h₅ h₆
  · exact hstate _ p.readyReturnState_ne
  · exact hstate _ (by decide)
  · exact hstate _ (by decide)
  · refine (hpending.trans (does_setStateTimeout _ _ _)).mono ⟨fun x hx => ?_, by decide⟩
    rcases List.mem_append.1 hx with hx | hx
    · exact hwait h₆ hx
    · exact hW (List.mem_cons_of_mem _ hx)
  · exact hstate _ (by decide)
  · exact hstate _ (by decide)
  · exact p.does_nothing _ _

theorem does_handleAccept :
    Does (ctrlWrites (some .accept)) (ctrlCalls (some .accept)) p p.handleAccept := by
  unfold handleAccept
  split_ifs
  · exact ((p.does_setVbusNeverLow false).trans (does_executeSoftReset _)).mono (by decide)
  · exact (p.does_pdDrSwap.trans (does_setState_of_ne _ (readyReturnState_ne _))).mono (by decide)
  · exact (((p.does_record .powerSwapAccepted).trans (does_setContract _ false)).trans
      (does_setState_of_ne _ (by decide))).mono (by decide)
  · exact (((p.does_record .powerSwapAccepted).trans (does_setContract _ false)).trans
      (does_setState_of_ne _ (by decide))).mono (by decide)
  · exact (((p.does_record .contractAgreed).trans (does_setContract _ true)).trans
      (does_setState_of_ne _ (by decide))).mono (by decide)
  · exact p.does_nothing _ _

theorem does_handleSoftReset :
    Does (ctrlWrites (some .softReset)) (ctrlCalls (some .softReset)) p p.handleSoftReset :=
  (p.does_executeSoftReset.trans (does_sendAccept _)).mono (by decide)

theorem does_handleCtrlRequest (b : Board) (now : Nat) (m : PdMsg) :
    Does (ctrlWrites (CtrlMsgType.ofField (headerType m.head)))
      (ctrlCalls (CtrlMsgType.ofField (headerType m.head))) p (p.handleCtrlRequest b now m) := by
  have hrejected : Does [.chip] [.sop] p (p.sendControl .reject).2 := p.does_sendControl (by decide)
  unfold handleCtrlRequest
  cases CtrlMsgType.ofField (headerType m.head) with
  | none => exact p.does_nothing _ _
  | some type =>
      cases type with
      | getSourceCap => exact p.does_handleGetSourceCap b
      | getSinkCap => exact p.does_sendSinkCap b
      | psRdy => exact p.does_handlePsRdy
      | reject => exact p.does_handleRejectWait now (by decide) (by decide)
      | wait => exact p.does_handleRejectWait now (by decide) (by decide)
      | accept => exact p.does_handleAccept
      | softReset => exact p.does_handleSoftReset
      | prSwap => exact hrejected
      | drSwap => exact hrejected
      | vconnSwap => exact hrejected
      | _ => exact p.does_nothing _ _

/-- A message writes what its type says. -/
theorem does_handleRequest (b : Board) (now : Nat) (m : PdMsg) :
    Does m.writes m.calls p (p.handleRequest b now m) := by
  unfold handleRequest
  split
  · exact p.does_nothing _ _
  · unfold PdMsg.writes PdMsg.calls
    split_ifs
    · exact p.does_handleDataRequest b now m
    · exact p.does_handleCtrlRequest b now m

end Port

end UsbPd
