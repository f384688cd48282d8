import UsbPd.Frame.Messages

/-!
# Write sets of the states

What each case of the switch can write.
-/

namespace UsbPd

/-- What a state writes when the switch runs it. -/
def stateWrites : PdState → List Part
  | .suspended => [.suspend, .task, .timer, .chip]
  | .snkDisconnected => [.chip, .cc, .debounce, .hardResetCount, .task, .timer, .trySrc, .role,
      .nextRoleSwap]
  | .snkDisconnectedDebounce => [.chip, .cc, .task, .timer, .debounce, .polarity, .link, .dataRole,
      .roleBits, .typecCurr, .roleChecks, .identity, .tsDtsPartner]
  | .snkHardResetRecover => [.identity, .vbusOff, .timer, .task]
  | .snkDiscovery => [.timer, .typecCurr, .chip, .cc]
  | .snkRequested => [.hardResetCount, .timer]
  | .snkReady => [.newPowerRequest, .power, .task, .timer, .chip, .roleChecks, .vdm, .identity]
  | .snkSwapSnkDisable => [.task, .timer]
  | .snkSwapStandby => [.chip, .timer]
  | .snkSwapComplete => [.chip, .snkCapCount, .capsCount, .link, .role, .roleBits, .task, .timer]
  | .srcDisconnected => [.chip, .cc, .debounce, .task, .timer, .role, .nextRoleSwap, .trySrcMarker]
  | .srcDisconnectedDebounce => [.chip, .cc, .task, .timer, .debounce, .polarity, .dataRole,
      .roleBits, .tsDtsPartner, .roleChecks, .hardResetCount]
  | .srcHardResetRecover => [.task, .timer]
  | .srcStartup => [.identity, .link, .capsCount, .snkCapCount, .timer]
  | .srcDiscovery => [.timer, .chip, .task, .hardResetCount, .capsCount, .previousPdConn]
  | .srcTransition => [.chip, .task, .timer]
  | .srcReady => [.chip, .task, .timer, .updateSrcCaps, .snkCapCount, .roleChecks, .vdm, .identity]
  | .snkSwapInit | .drSwap | .srcSwapInit => [.chip, .task, .timer]
  | .srcSwapStandby => [.chip, .task, .timer, .role]
  | .softReset => [.link, .chip, .task, .timer]
  | .hardResetSend => [.hardResetCount, .hardResetSent, .vbusNeverLow, .chip, .timer, .task]
  | .hardResetExecute => [.link, .last, .task, .timer, .chip, .recover]
  | .disabled => []
  | _ => [.timer]

/-- The calls that a state leads to. -/
def stateCalls : PdState → List CallKind
  | .suspended | .snkDisconnected | .srcDisconnected => [.noCurrent, .vbus, .rxEnable]
  | .snkDisconnectedDebounce => [.noCurrent, .vbus, .rxEnable, .msgIdReset, .sop]
  | .srcDisconnectedDebounce => [.noCurrent, .vbus, .rxEnable]
  | .snkSwapInit | .drSwap | .srcSwapInit => [.sop]
  | .snkReady => [.request]
  | .srcDiscovery | .srcReady => [.caps, .sop]
  | .snkSwapSnkDisable => [.noCurrent]
  | .snkSwapStandby | .srcHardResetRecover | .srcSwapSrcDisable => [.vbus]
  | .snkSwapComplete => [.sop, .vbus, .msgIdReset, .noCurrent, .rxEnable]
  | .srcStartup => [.msgIdReset]
  | .srcPowered => [.transitionVoltage]
  | .srcTransition | .srcSwapStandby => [.sop, .noCurrent, .vbus, .rxEnable]
  | .softReset => [.msgIdReset, .sop]
  | .hardResetSend => [.hardReset]
  | .hardResetExecute => [.executeHardReset, .msgIdReset, .vbus, .noCurrent]
  | _ => []

/-- The switch in the state `s` takes `p` to `q`. -/
abbrev DoesState (s : PdState) (p q : Port) : Prop := Does (stateWrites s) (stateCalls s) p q

namespace Port

variable (p : Port)

theorem does_armOnEntry (timeout : Nat) (timeoutState : PdState) :
    Does [.timer] [] p (p.armOnEntry timeout timeoutState) := by
  unfold armOnEntry
  split_ifs
  · exact p.does_setStateTimeout _ _
  · exact p.does_nothing _ _

/-! The states of a source. -/

theorem does_srcDisconnected (inp : Input) :
    DoesState .srcDisconnected p (p.srcDisconnected inp) := by
  have hcc := p.does_tcpmGetCc inp.cc
  have hnone : ∀ q : Port,
      Does [.debounce] [] q (q.modifyPd fun pd => { pd with ccState := .none }) :=
    fun q => .assign (by rintro ⟨⟩ hx <;> first | rfl | simp at hx) rfl
  have hswap : ∀ q : Port, Does [.nextRoleSwap, .trySrcMarker] [] q
      ((q.modifySt fun st => { st with nextRoleSwap := inp.time .switchNext + pdTDrpSnk }).modifyPd
        fun pd => { pd with trySrcMarker := inp.time .switchLast + pdTTryWait }) :=
    fun q => .assign (by rintro ⟨⟩ hx <;> first | rfl | simp at hx) rfl
  unfold srcDisconnected
  simp only
  split_ifs
  · exact ((hcc.trans (hnone _)).trans (does_setState_of_ne _ (by decide))).mono (by decide)
  · exact ((((hcc.trans (does_setPowerRole _ .sink)).trans (does_setState _ _)).trans
      (does_tcpmSetCc _ .rd)).trans (hswap _)).mono (by decide)
  · exact hcc.mono (by decide)

theorem does_attachSink (newCcState : CcState) :
    Does [.polarity, .chip, .dataRole, .roleBits, .tsDtsPartner, .roleChecks, .hardResetCount,
      .task, .timer] [.vbus, .rxEnable] p (p.attachSink newCcState) := by
  have hpolarity : Does [.polarity] [] p
      (p.modifyPd fun pd => { pd with polarity := decide (p.st.cc1 ≠ .rd) }) :=
    .assign (by rintro ⟨⟩ hx <;> first | rfl | simp at hx) rfl
  have hchecks : ∀ q : Port, Does [.roleChecks, .hardResetCount] []  q
      ((q.setFlags { q.pd.flags with checkPrRole := true, checkDrRole := true }).modifySt
        fun st => { st with hardResetCount := 0 }) :=
    fun q => .assign (by rintro ⟨⟩ hx <;> first | rfl | simp at hx) rfl
  have hrole := (hpolarity.trans (does_tcpmSetPolarity _ (decide (p.st.cc1 ≠ .rd)))).trans
    (does_pdSetDataRole _ .dfp)
  unfold attachSink
  simp only [pdSetPowerSupplyReady_fst, ne_eq, not_true, if_false, pdCommIsEnabled, if_true]
  generalize hq : (if newCcState = .debugAcc then _ else _ : Port) = q
  have hpartner : Does [.polarity, .chip, .dataRole, .roleBits, .tsDtsPartner] [] p q := by
    rw [← hq]
    split_ifs
    · exact (hrole.trans (does_setTsDtsPartner _ true)).mono (by decide)
    · exact hrole.mono (by decide)
  exact ((((hpartner.trans (does_pdSetPowerSupplyReady _)).trans
    (does_tcpmSetRxEnable _ true)).trans (hchecks _)).trans
      (does_setState_of_ne _ (by decide))).mono (by decide)

theorem does_srcDisconnectedDebounce (inp : Input) :
    DoesState .srcDisconnectedDebounce p (p.srcDisconnectedDebounce inp) := by
  have hcc := p.does_tcpmGetCc inp.cc
  have hdebounce : ∀ (q : Port) (timeout : Nat) (state : CcState), Does [.debounce] [] q
      (q.modifyPd fun pd => { pd with ccDebounce := timeout, ccState := state }) :=
    fun q _ _ => .assign (by rintro ⟨⟩ hx <;> first | rfl | simp at hx) rfl
  unfold srcDisconnectedDebounce
  simp only
  split
  · exact (hcc.trans (does_setState _ _)).mono (by decide)
  · split_ifs
    · exact (hcc.trans (hdebounce _ _ _)).mono (by decide)
    · exact hcc.mono (by decide)
    · exact (hcc.trans (does_attachSink _ _)).mono (by decide)
    · exact hcc.mono (by decide)

theorem does_srcHardResetRecover (inp : Input) :
    DoesState .srcHardResetRecover p (p.srcHardResetRecover inp) := by
  unfold srcHardResetRecover
  simp only [pdSetPowerSupplyReady_fst, ne_eq, not_true, if_false]
  split_ifs
  · exact p.does_nothing _ _
  · exact (p.does_pdSetPowerSupplyReady.trans (does_setState_of_ne _ (by decide))).mono (by decide)

theorem does_srcStartup (inp : Input) : DoesState .srcStartup p (p.srcStartup inp) := by
  have hcounts : ∀ q : Port, Does [.capsCount, .snkCapCount] [] q
      (q.modifySt fun st => { st with capsCount := 0, snkCapCount := 0 }) :=
    fun q => .assign (by rintro ⟨⟩ hx <;> first | rfl | simp at hx) rfl
  unfold srcStartup
  split_ifs
  · exact (((p.does_setIdentity true).trans (does_resetMsgId _)).trans (hcounts _)).trans
      (does_setStateTimeout _ _ _) |>.mono (by decide)
  · exact p.does_nothing _ _

theorem does_srcDiscovery (b : Board) (inp : Input) :
    DoesState .srcDiscovery p (p.srcDiscovery b inp) := by
  have hcounts : ∀ q : Port, Does [.hardResetCount, .capsCount] [] q
      (q.modifySt fun st => { st with hardResetCount := 0, capsCount := 0 }) :=
    fun q => .assign (by rintro ⟨⟩ hx <;> first | rfl | simp at hx) rfl
  have hcount : ∀ q : Port, Does [.capsCount] [] q
      (q.modifySt fun st => { st with capsCount := st.capsCount + 1 }) :=
    fun q => .assign (by rintro ⟨⟩ hx <;> first | rfl | simp at hx) rfl
  unfold srcDiscovery
  simp only
  generalize hq : (if p.entering = true ∧ p.pd.flags.previousPdConn = true then
      p.setStateTimeout (inp.time .switch + pdTNoResponse)
        (if p.st.hardResetCount < pdHardResetCount then .hardResetSend else .srcDisconnected)
    else p) = q
  have harmed : Does [.timer] [] p q := by
    rw [← hq]
    split
    · exact p.does_setStateTimeout _ _
    · exact p.does_nothing _ _
  have hsent := harmed.trans (q.does_sendSourceCap b)
  split_ifs
  · exact (((hsent.trans (does_setState_of_ne _ (by decide))).trans (hcounts _)).trans
      (does_setPreviousPdConn _ true)).mono (by decide)
  · exact (hsent.trans (hcount _)).mono (by decide)
  · exact harmed.mono (by decide)

theorem does_srcPowered (inp : Input) : DoesState .srcPowered p (p.srcPowered inp) := by
  unfold srcPowered
  split_ifs
  · exact ((p.does_record (.transitionVoltage p.pd.requestedIdx)).trans
      (does_setStateTimeout _ _ _)).mono ⟨by decide, List.Subset.refl [CallKind.transitionVoltage]⟩
  · exact p.does_nothing _ _

theorem does_srcTransition : DoesState .srcTransition p p.srcTransition := by
  have hsent : Does [.chip] [.sop] p (p.sendControl .psRdy).2 := p.does_sendControl (by decide)
  unfold srcTransition
  simp only
  split_ifs
  · exact (hsent.trans (does_setState _ _)).mono (by decide)
  · exact (hsent.trans (does_setState _ _)).mono (by decide)

theorem does_readyChecks {q : Port} (h : p.readyChecks = some q) :
    Does [.roleChecks, .vdm, .identity] [] p q := by
  unfold readyChecks at h
  split_ifs at h
  · obtain rfl := Option.some.inj h
    exact .assign (by rintro ⟨⟩ hx <;> first | rfl | simp at hx) rfl
  · obtain rfl := Option.some.inj h
    exact .assign (by rintro ⟨⟩ hx <;> first | rfl | simp at hx) rfl
  · obtain rfl := Option.some.inj h
    exact ((p.does_pdSendVdm _ _ _).trans (does_setIdentity _ false)).mono (by decide)

theorem does_srcPing : Does [.chip, .task, .timer] [.sop] p p.srcPing := by
  have hsent : Does [.chip] [.sop] p (p.sendControl .ping).2 := p.does_sendControl (by decide)
  unfold srcPing
  simp only
  split_ifs
  · exact hsent.mono (by decide)
  · exact (hsent.trans (does_setState_of_ne _ (by decide))).mono (by decide)
  · exact p.does_nothing _ _

theorem does_srcReady (b : Board) : DoesState .srcReady p (p.srcReady b) := by
  have hcount : ∀ q : Port, Does [.snkCapCount] [] q
      (q.modifySt fun st => { st with snkCapCount := toInt32 (st.snkCapCount + 1) }) :=
    fun q => .assign (by rintro ⟨⟩ hx <;> first | rfl | simp at hx) rfl
  have hupdated : ∀ q : Port, Does [.updateSrcCaps] [] q
      (q.setFlags { q.pd.flags with updateSrcCaps := false }) :=
    fun q => .assign (by rintro ⟨⟩ hx <;> first | rfl | simp at hx) rfl
  have hcaps := p.does_sendSourceCap b
  unfold srcReady
  split
  · exact p.does_nothing _ _
  split
  · simp only
    split_ifs
    · exact ((hcaps.trans (does_setState_of_ne _ (by decide))).trans (hupdated _)).mono (by decide)
    · exact hcaps.mono (by decide)
  split
  · exact (((hcount p).trans (does_sendControl _ (by decide))).trans
      (does_setState_of_ne _ (by decide))).mono (by decide)
  · simp only
    generalize hq : (if p.pd.flags.snkCapRecvd = true then p
      else p.modifySt fun st => { st with snkCapCount := toInt32 (st.snkCapCount + 1) }) = q
    have hq' : Does [.snkCapCount] [] p q := by
      rw [← hq]
      split
      · exact p.does_nothing _ _
      · exact hcount p
    cases hchecks : q.readyChecks with
    | none => exact (hq'.trans q.does_srcPing).mono (by decide)
    | some r => exact (hq'.trans (q.does_readyChecks hchecks)).mono (by decide)

theorem does_sendOnEntry (inp : Input) {type : CtrlMsgType} (htype : Ordinary type.toNat)
    {back : PdState}
    (hback : back ≠ .srcDisconnected ∧ back ≠ .snkDisconnected) :
    Does [.chip, .task, .timer] [.sop] p (p.sendOnEntry inp type back) := by
  have hsent := p.does_sendControl htype
  unfold sendOnEntry
  simp only
  split_ifs
  · exact (hsent.trans (does_setState_of_ne _ (by decide))).mono (by decide)
  · exact (hsent.trans (does_setState_of_ne _ hback)).mono (by decide)
  · exact (hsent.trans (does_setStateTimeout _ _ _)).mono (by decide)
  · exact p.does_nothing _ _

theorem does_srcSwapSrcDisable (inp : Input) :
    DoesState .srcSwapSrcDisable p (p.srcSwapSrcDisable inp) := by
  unfold srcSwapSrcDisable
  split_ifs
  · exact (p.does_pdPowerSupplyReset.trans (does_setStateTimeout _ _ _)).mono (by decide)
  · exact p.does_nothing _ _

theorem does_srcSwapStandby (inp : Input) :
    DoesState .srcSwapStandby p (p.srcSwapStandby inp) := by
  have hsent : Does [.chip] [.sop] p (p.sendControl .psRdy).2 := p.does_sendControl (by decide)
  unfold srcSwapStandby
  simp only
  split_ifs
  · exact (hsent.trans (does_setState _ _)).mono (by decide)
  · exact (((hsent.trans (does_tcpmSetCc _ .rd)).trans (does_setPowerRole _ .sink)).trans
      (does_setStateTimeout _ _ _)).mono (by decide)
  · exact p.does_nothing _ _

/-! The states of a sink. -/

theorem does_suspended : DoesState .suspended p p.suspended := by
  have hstart : Does [.suspend] [] p (p.modifyPd fun pd => { pd with reqSuspendState := false }) :=
    .assign (by rintro ⟨⟩ hx <;> first | rfl | simp at hx) rfl
  unfold suspended
  simp only
  split_ifs
  · exact hstart.mono (by decide)
  · exact (hstart.trans (does_setState _ _)).mono (by decide)

theorem does_snkDisconnected (inp : Input) :
    DoesState .snkDisconnected p (p.snkDisconnected inp) := by
  have hcc := p.does_tcpmGetCc inp.cc
  have hdebounce : ∀ q : Port, Does [.debounce, .hardResetCount] [] q
      ((q.modifyPd fun pd => { pd with
        ccState := .none, ccDebounce := inp.time .switch + pdTCcDebounce }).modifySt fun st =>
          { st with hardResetCount := 0 }) :=
    fun q => .assign (by rintro ⟨⟩ hx <;> first | rfl | simp at hx) rfl
  have htry : ∀ q : Port, Does [.trySrc] [] q (q.setFlags { q.pd.flags with trySrc := false }) :=
    fun q => .assign (by rintro ⟨⟩ hx <;> first | rfl | simp at hx) rfl
  have hswap : ∀ q : Port, Does [.nextRoleSwap] [] q
      (q.modifySt fun st => { st with nextRoleSwap := inp.time .switchNext + pdTDrpSrc }) :=
    fun q => .assign (by rintro ⟨⟩ hx <;> first | rfl | simp at hx) rfl
  unfold snkDisconnected
  simp only
  split_ifs
  · exact ((hcc.trans (hdebounce _)).trans (does_setState_of_ne _ (by decide))).mono (by decide)
  · exact (hcc.trans (htry _)).mono (by decide)
  · exact hcc.mono (by decide)
  · exact ((((hcc.trans (does_setPowerRole _ .source)).trans (does_setState _ _)).trans
      (does_tcpmSetCc _ .rp)).trans (hswap _)).mono (by decide)
  · exact hcc.mono (by decide)

theorem does_attachSource (newCcState : CcState) :
    Does [.polarity, .chip, .link, .dataRole, .roleBits, .typecCurr, .roleChecks, .identity,
      .tsDtsPartner, .task, .timer] [.msgIdReset, .rxEnable, .sop] p
      (p.attachSource newCcState) := by
  have hpolarity : Does [.polarity] [] p
      (p.modifyPd fun pd => { pd with polarity := getSnkPolarity p.st.cc1 p.st.cc2 }) :=
    .assign (by rintro ⟨⟩ hx <;> first | rfl | simp at hx) rfl
  have htypec : ∀ (q : Port) (limit : Word), Does [.typecCurr] [] q
      (q.modifySt fun st => { st with typecCurr := limit }) :=
    fun q _ => .assign (by rintro ⟨⟩ hx <;> first | rfl | simp at hx) rfl
  have hchecks : ∀ q : Port, Does [.roleChecks, .identity] [] q (q.setFlags { q.pd.flags with
      checkPrRole := true, checkDrRole := true, checkIdentity := true }) :=
    fun q => .assign (by rintro ⟨⟩ hx <;> first | rfl | simp at hx) rfl
  have hrole := ((hpolarity.trans
    (does_tcpmSetPolarity _ (getSnkPolarity p.st.cc1 p.st.cc2))).trans (does_resetMsgId _)).trans
      (does_pdSetDataRole _ .ufp)
  have henabled := (hrole.trans (htypec _ (getTypecCurrentLimit
    (getSnkPolarity p.st.cc1 p.st.cc2) p.st.cc1 p.st.cc2))).trans (does_tcpmSetRxEnable _ true)
  unfold attachSource
  simp only [pdCommIsEnabled, if_true]
  split_ifs
  · exact ((((henabled.trans (hchecks _)).trans (does_setTsDtsPartner _ true)).trans
      (does_sendControl _ (by decide))).trans (does_setState_of_ne _ (by decide))).mono (by decide)
  · exact (((henabled.trans (hchecks _)).trans (does_sendControl _ (by decide))).trans
      (does_setState_of_ne _ (by decide))).mono (by decide)
  · exact henabled.mono (by decide)

theorem does_snkDisconnectedDebounce (inp : Input) :
    DoesState .snkDisconnectedDebounce p (p.snkDisconnectedDebounce inp) := by
  have hcc := p.does_tcpmGetCc inp.cc
  have hdebounce : ∀ (q : Port) (timeout : Nat) (state : CcState), Does [.debounce] [] q
      (q.modifyPd fun pd => { pd with ccDebounce := timeout, ccState := state }) :=
    fun q _ _ => .assign (by rintro ⟨⟩ hx <;> first | rfl | simp at hx) rfl
  unfold snkDisconnectedDebounce
  simp only
  split
  · exact (hcc.trans (does_setState _ _)).mono (by decide)
  · simp only [pdTrySrcEnable, Bool.false_eq_true, false_and, if_false]
    split_ifs
    · exact (hcc.trans (hdebounce _ _ _)).mono (by decide)
    · exact hcc.mono (by decide)
    · exact (hcc.trans (does_attachSource _ _)).mono (by decide)

theorem does_snkHardResetRecover (inp : Input) :
    DoesState .snkHardResetRecover p (p.snkHardResetRecover inp) := by
  have hvbus : ∀ q : Port, Does [.vbusOff] [] q
      (q.modifySt fun st => { st with snkHardResetVbusOff := false }) :=
    fun q => .assign (by rintro ⟨⟩ hx <;> first | rfl | simp at hx) rfl
  unfold snkHardResetRecover
  simp only [pdIsVbusPresent, not_true, false_and, if_false, true_and]
  generalize hq : (if p.entering = true then _ else p : Port) = q
  have hentered : Does [.identity, .vbusOff, .timer] [] p q := by
    rw [← hq]
    split
    · have hstart := (p.does_setIdentity true).trans (hvbus _)
      exact (hstart.trans (does_setStateTimeout _ _ _)).mono (by decide)
    · exact p.does_nothing _ _
  split_ifs
  · exact (hentered.trans (does_setState_of_ne _ (by decide))).mono (by decide)
  · exact hentered.mono (by decide)

theorem does_updateTypecCurr (inp : Input) :
    Does [.typecCurr, .chip, .cc] [] p (p.updateTypecCurr inp) := by
  have htypec : ∀ q : Port, (∀ x, x ∉ [Part.typecCurr] → q.part x = (p.tcpmGetCc inp.cc).part x) →
      q.log = p.log → Does [.typecCurr, .chip, .cc] [] p q := fun q hkeeps hlog =>
    ((p.does_tcpmGetCc inp.cc).trans (.assign hkeeps hlog)).mono (by decide)
  unfold updateTypecCurr
  simp only
  split_ifs
  all_goals
    refine htypec _ (fun x hx => ?_) rfl
    cases x <;> first | rfl | exact absurd (by decide) hx

theorem does_snkDiscovery (inp : Input) : DoesState .snkDiscovery p (p.snkDiscovery inp) := by
  have htypec : ∀ q : Port, Does [.typecCurr] [] q
      (q.modifySt fun st => { st with typecCurr := 0 }) :=
    fun q => .assign (by rintro ⟨⟩ hx <;> first | rfl | simp at hx) rfl
  have harm : Does [.timer] [] p (p.armSnkDiscovery inp) := by
    unfold armSnkDiscovery
    split_ifs
    · exact p.does_setStateTimeout _ _
    · exact p.does_setStateTimeout _ _
    · exact p.does_setStateTimeout _ _
    · exact p.does_nothing _ _
  unfold snkDiscovery
  simp only
  split_ifs
  · exact ((harm.trans (htypec _)).trans (does_updateTypecCurr _ inp)).mono (by decide)
  · exact (harm.trans (does_updateTypecCurr _ inp)).mono (by decide)
  · exact (p.does_updateTypecCurr inp).mono (by decide)

theorem does_snkRequested (inp : Input) : DoesState .snkRequested p (p.snkRequested inp) := by
  unfold snkRequested
  split_ifs
  · exact .assign (by rintro ⟨⟩ hx <;> first | rfl | simp [stateWrites] at hx) rfl
  · exact p.does_nothing _ _

theorem does_snkReady : DoesState .snkReady p p.snkReady := by
  have hsent := p.does_pdSendRequestMsg false
  unfold snkReady
  split
  · exact p.does_nothing _ _
  split
  · simp only
    split_ifs
    · exact (hsent.trans (does_setState_of_ne _ (by decide))).mono (by decide)
    · exact hsent.mono (by decide)
  · cases hchecks : p.readyChecks with
    | none => exact p.does_nothing _ _
    | some q => exact (p.does_readyChecks hchecks).mono (by decide)

theorem does_snkSwapStandby (inp : Input) :
    DoesState .snkSwapStandby p (p.snkSwapStandby inp) := by
  unfold snkSwapStandby
  simp only [pdSetPowerSupplyReady_fst, ne_eq, not_true, if_false]
  split_ifs
  · exact (((p.does_tcpmSetCc .rp).trans (does_pdSetPowerSupplyReady _)).trans
      (does_setStateTimeout _ _ _)).mono (by decide)
  · exact p.does_nothing _ _

theorem does_snkSwapComplete : DoesState .snkSwapComplete p p.snkSwapComplete := by
  have hsent : Does [.chip] [.sop] p (p.sendControl .psRdy).2 := p.does_sendControl (by decide)
  have hcounts : ∀ q : Port, Does [.snkCapCount, .capsCount] [] q (q.modifySt fun st =>
      { st with snkCapCount := pdSnkCapRetries + 1, capsCount := 0 }) :=
    fun q => .assign (by rintro ⟨⟩ hx <;> first | rfl | simp at hx) rfl
  unfold snkSwapComplete
  simp only
  split_ifs
  · exact (((hsent.trans (does_tcpmSetCc _ .rd)).trans (does_pdPowerSupplyReset _)).trans
      (does_setState _ _)).mono (by decide)
  · exact (((((hsent.trans (hcounts _)).trans (does_resetMsgId _)).trans
      (does_setPowerRole _ .source)).trans (does_pdUpdateRoles _)).trans
        (does_setState_of_ne _ (by decide))).mono (by decide)

theorem does_softReset (inp : Input) : DoesState .softReset p (p.softReset inp) := by
  have hsent := p.does_resetMsgId.trans
    (does_sendControl _ (by decide : Ordinary CtrlMsgType.softReset.toNat))
  unfold softReset
  simp only
  split_ifs
  · exact (hsent.trans (does_setState_of_ne _ (by decide))).mono (by decide)
  · exact (hsent.trans (does_setStateTimeout _ _ _)).mono (by decide)
  · exact p.does_nothing _ _

theorem does_sendHardReset (inp : Input) :
    Does [.hardResetSent, .chip, .timer, .task] [.hardReset] p (p.sendHardReset inp) := by
  have hsent := p.does_pdTransmit .hardReset 0 []
  have hmark : ∀ q : Port, Does [.hardResetSent] [] q
      (q.modifySt fun st => { st with hardResetSent := true }) :=
    fun q => .assign (by rintro ⟨⟩ hx <;> first | rfl | simp at hx) rfl
  unfold sendHardReset
  simp only
  split_ifs
  · exact p.does_nothing _ _
  · exact hsent.mono (by decide)
  · exact ((hsent.trans (hmark _)).trans (does_setStateTimeout _ _ _)).mono (by decide)
  · exact ((hsent.trans (hmark _)).trans (does_setState_of_ne _ (by decide))).mono (by decide)

theorem does_hardResetSend (inp : Input) : DoesState .hardResetSend p (p.hardResetSend inp) := by
  have hcount : Does [.hardResetCount, .hardResetSent] [] p (p.modifySt fun st => { st with
      hardResetCount := toInt32 (p.st.hardResetCount + 1),
      hardResetSent := p.st.hardResetSent && !p.entering }) :=
    .assign (by rintro ⟨⟩ hx <;> first | rfl | simp at hx) rfl
  unfold hardResetSend
  simp only
  split_ifs
  · have hsent := (hcount.trans (does_setVbusNeverLow _ false)).trans (does_sendHardReset _ inp)
    exact hsent.mono (by decide)
  · exact (hcount.trans (does_sendHardReset _ inp)).mono (by decide)

theorem does_hardResetExecute (inp : Input) :
    DoesState .hardResetExecute p (p.hardResetExecute inp) := by
  unfold hardResetExecute
  simp only
  split_ifs
  · exact ((p.does_tcpmSetCc .rd).trans (does_pdExecuteHardReset _ _)).mono (by decide)
  · exact p.does_pdExecuteHardReset _

/-- The switch writes what the state says. -/
theorem does_runState (b : Board) (inp : Input) :
    DoesState p.pd.taskState p (p.runState b inp) := by
  have hready := p.readyReturnState_ne
  unfold runState
  cases htask : p.pd.taskState with
  | disabled => exact p.does_nothing _ _
  | suspended => exact p.does_suspended
  | snkDisconnected => exact p.does_snkDisconnected inp
  | snkDisconnectedDebounce => exact p.does_snkDisconnectedDebounce inp
  | snkHardResetRecover => exact p.does_snkHardResetRecover inp
  | snkDiscovery => exact p.does_snkDiscovery inp
  | snkRequested => exact p.does_snkRequested inp
  | snkReady => exact p.does_snkReady
  | snkSwapSnkDisable =>
      exact (p.does_clearInputCurrentLimit.trans
        (does_setState_of_ne _ (by decide))).mono (by decide)
  | snkSwapStandby => exact p.does_snkSwapStandby inp
  | snkSwapComplete => exact p.does_snkSwapComplete
  | srcDisconnected => exact p.does_srcDisconnected inp
  | srcDisconnectedDebounce => exact p.does_srcDisconnectedDebounce inp
  | srcHardResetRecover => exact p.does_srcHardResetRecover inp
  | srcStartup => exact p.does_srcStartup inp
  | srcDiscovery => exact p.does_srcDiscovery b inp
  | srcPowered => exact p.does_srcPowered inp
  | srcTransition => exact p.does_srcTransition
  | srcReady => exact p.does_srcReady b
  | srcSwapSrcDisable => exact p.does_srcSwapSrcDisable inp
  | srcSwapStandby => exact p.does_srcSwapStandby inp
  | softReset => exact p.does_softReset inp
  | hardResetSend => exact p.does_hardResetSend inp
  | hardResetExecute => exact p.does_hardResetExecute inp
  | drSwap => exact p.does_sendOnEntry inp (by decide) hready
  | snkSwapInit => exact p.does_sendOnEntry inp (by decide) (by decide)
  | srcSwapInit => exact p.does_sendOnEntry inp (by decide) (by decide)
  | _ => exact p.does_armOnEntry _ _

end Port

end UsbPd
