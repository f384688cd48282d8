import UsbPd.Conduct.Messages

/-!
# Conduct of the states
-/

namespace UsbPd

namespace Actions

variable {b : Board} {p q : Port}

theorem armOnEntry (h : Actions b p q) {timeout : Nat} {timeoutState : PdState}
    (hs : timeoutState ∈ q.pd.taskState.arms) (hbacked : timeoutState ≠ .srcTransition) :
    Actions b p (q.armOnEntry timeout timeoutState) := by
  unfold Port.armOnEntry
  split_ifs
  · exact h.arm hs hbacked
  · exact h

/-! The states of a source. -/

theorem srcDisconnected (h : Actions b p q) (hs : q.pd.taskState = .srcDisconnected)
    (inp : Input) : Actions b p (q.srcDisconnected inp) := by
  have hcc := h.tcpmGetCc inp.cc
  unfold Port.srcDisconnected
  simp only
  split_ifs
  · refine .setState (hcc.assign (by rfl)) ?_
    simp only [Port.modifyPd_pd, Port.tcpmGetCc_pd, hs]
    rfl
  · have hsink := hcc.assign (r := (q.tcpmGetCc inp.cc).setPowerRole .sink) rfl
    exact (hsink.setStateAny (s := .snkDisconnected) fun _ => rfl).presentRd.assign rfl
  · exact hcc

theorem attachSink (h : Actions b p q) (hs : q.pd.taskState = .srcDisconnectedDebounce)
    (newCcState : CcState) : Actions b p (q.attachSink newCcState) := by
  unfold Port.attachSink
  simp only [Port.pdSetPowerSupplyReady_fst, ne_eq, not_true, if_false, pdCommIsEnabled, if_true]
  have hrole := (h.tail (.orient q (decide (q.st.cc1 ≠ .rd)))).pdSetDataRole .dfp
  refine .setState (.assign (.setFlags (.tcpmSetRxEnable (.pdSetPowerSupplyReady ?_) true) _)
    (by rfl)) ?_
  · split
    · exact hrole.setFlags _
    · exact hrole
  · split_ifs <;> simp [hs, PdState.enters]

theorem srcDisconnectedDebounce (h : Actions b p q)
    (hs : q.pd.taskState = .srcDisconnectedDebounce) (inp : Input) :
    Actions b p (q.srcDisconnectedDebounce inp) := by
  have hcc := h.tcpmGetCc inp.cc
  unfold Port.srcDisconnectedDebounce
  simp only
  split
  · exact hcc.setStateAny fun _ => rfl
  · split_ifs
    · exact hcc.assign rfl
    · exact hcc
    · exact hcc.attachSink hs _
    · exact hcc

theorem srcHardResetRecover (h : Actions b p q) (hs : q.pd.taskState = .srcHardResetRecover)
    (inp : Input) : Actions b p (q.srcHardResetRecover inp) := by
  unfold Port.srcHardResetRecover
  simp only
  split_ifs
  · exact h
  · exact h.pdSetPowerSupplyReady.setStateAny fun _ => rfl
  · exact h.pdSetPowerSupplyReady.setState (by simp [hs, PdState.enters])

theorem srcStartup (h : Actions b p q) (hs : q.pd.taskState = .srcStartup) (inp : Input) :
    Actions b p (q.srcStartup inp) := by
  unfold Port.srcStartup
  split_ifs
  · refine .arm ((h.setFlags _).resetMsgId.assign (by rfl)) ?_ (by decide)
    simp only [Port.modifySt_pd, Port.resetMsgId_pd, Port.setFlags_pd, hs]
    decide
  · exact h

theorem srcDiscovery (h : Actions b p q) (hs : q.pd.taskState = .srcDiscovery) (inp : Input) :
    Actions b p (q.srcDiscovery b inp) := by
  unfold Port.srcDiscovery
  simp only
  generalize hr : (if q.entering = true ∧ q.pd.flags.previousPdConn = true then
      q.setStateTimeout (inp.time .switch + pdTNoResponse)
        (if q.st.hardResetCount < pdHardResetCount then .hardResetSend else .srcDisconnected)
    else q) = r
  have hr' : Actions b p r ∧ r.pd.taskState = .srcDiscovery := by
    rw [← hr]
    split
    · refine ⟨h.arm ?_ ?_, hs⟩
      · split_ifs
        · rw [hs]
          decide
        · rw [hs]
          decide
      · split_ifs <;> decide
    · exact ⟨h, hs⟩
  obtain ⟨hr', hrs⟩ := hr'
  split_ifs
  · refine Actions.assign (hr'.sendSourceCap.setState (s := .srcNegociate) ?_) (by rfl)
    rw [Port.sendSourceCap_pd, hrs]
    rfl
  · exact hr'.sendSourceCap.assign rfl
  · exact hr'

theorem srcPowered (h : Actions b p q) (hs : q.pd.taskState = .srcPowered) (inp : Input) :
    Actions b p (q.srcPowered inp) := by
  unfold Port.srcPowered
  split_ifs
  · refine h.tail (@Action.transition b q _ q.pd.requestedIdx hs ?_)
    rw [← hs]
    rfl
  · exact h

theorem srcTransition (h : Actions b p q) (hs : q.pd.taskState = .srcTransition) :
    Actions b p q.srcTransition := by
  have hsent := h.sendPsRdy (by rw [hs]; rfl)
  unfold Port.srcTransition
  simp only
  split_ifs
  · exact hsent.setStateAny fun _ => rfl
  · exact hsent.setStateAny fun _ => rfl

theorem srcPing (h : Actions b p q) : Actions b p q.srcPing := by
  have hsent : Actions b p (q.sendControl .ping).2 := h.sendControl (by decide)
  unfold Port.srcPing
  simp only
  split_ifs
  · exact hsent
  · exact hsent.setStateAny fun _ => rfl
  · exact h

theorem readyChecks (h : Actions b p q) {r : Port} (hr : q.readyChecks = some r) :
    Actions b p r := by
  unfold Port.readyChecks at hr
  split_ifs at hr
  · obtain rfl := Option.some.inj hr
    exact h.assign rfl
  · obtain rfl := Option.some.inj hr
    exact h.assign rfl
  · obtain rfl := Option.some.inj hr
    exact (h.pdSendVdm _ _ _).assign rfl

theorem srcReady (h : Actions b p q) (hs : q.pd.taskState = .srcReady) :
    Actions b p (q.srcReady b) := by
  unfold Port.srcReady
  split
  · exact h
  · split
    · simp only
      split_ifs
      · refine Actions.assign (h.sendSourceCap.setState (s := .srcNegociate) ?_) (by rfl)
        rw [Port.sendSourceCap_pd, hs]
        rfl
      · exact h.sendSourceCap
    · split
      · refine ((h.assign (by rfl)).sendControl (by decide)).setState ?_
        simp only [Port.sendControl_pd, Port.modifySt_pd, hs]
        rfl
      · simp only
        generalize hr : (if q.pd.flags.snkCapRecvd = true then q
          else q.modifySt fun st => { st with snkCapCount := toInt32 (st.snkCapCount + 1) }) = r
        have hr' : Actions b p r := by
          rw [← hr]
          split
          · exact h
          · exact h.assign rfl
        cases hchecks : r.readyChecks with
        | none => exact hr'.srcPing
        | some s => exact hr'.readyChecks hchecks

theorem sendOnEntry (h : Actions b p q) (inp : Input) {type : CtrlMsgType}
    (htype : type ≠ .goodCrc ∧ type ≠ .psRdy) {back : PdState}
    (hback : back ∈ q.pd.taskState.arms) (henters : q.pd.taskState.enters back = true) :
    Actions b p (q.sendOnEntry inp type back) := by
  have hsent := h.sendControl htype
  unfold Port.sendOnEntry
  simp only
  split_ifs
  · exact hsent.setStateAny fun _ => rfl
  · exact hsent.setState henters
  · refine hsent.arm hback fun hbacked => ?_
    rw [hbacked] at henters
    cases henters
  · exact h

theorem srcSwapSrcDisable (h : Actions b p q) (hs : q.pd.taskState = .srcSwapSrcDisable)
    (inp : Input) : Actions b p (q.srcSwapSrcDisable inp) := by
  unfold Port.srcSwapSrcDisable
  split_ifs
  · refine h.pdPowerSupplyReset.arm ?_ (by decide)
    rw [Port.pdPowerSupplyReset_pd, hs]
    decide
  · exact h

theorem srcSwapStandby (h : Actions b p q) (hs : q.pd.taskState = .srcSwapStandby)
    (inp : Input) : Actions b p (q.srcSwapStandby inp) := by
  have hsent := h.sendPsRdy (by rw [hs]; rfl)
  unfold Port.srcSwapStandby
  simp only
  split_ifs
  · exact hsent.setStateAny fun _ => rfl
  · refine Actions.arm (hsent.presentRd.assign (by rfl)) ?_ (by decide)
    simp only [Port.setPowerRole_pd, Port.tcpmSetCc_pd, Port.sendControl_pd, hs]
    decide
  · exact h

/-! The states of a sink. -/

theorem suspended (h : Actions b p q) : Actions b p q.suspended := by
  have hstart := h.assign (r := q.modifyPd fun pd => { pd with reqSuspendState := false }) rfl
  unfold Port.suspended
  simp only
  split_ifs
  · exact hstart
  · exact hstart.setStateAny fun _ => rfl

theorem snkDisconnected (h : Actions b p q) (hs : q.pd.taskState = .snkDisconnected)
    (inp : Input) : Actions b p (q.snkDisconnected inp) := by
  have hcc := h.tcpmGetCc inp.cc
  unfold Port.snkDisconnected
  simp only
  split_ifs
  · refine .setState (hcc.assign (by rfl)) ?_
    simp only [Port.modifySt_pd, Port.modifyPd_pd, Port.tcpmGetCc_pd, hs]
    rfl
  · exact hcc.assign rfl
  · exact hcc
  · have hsource := hcc.assign (r := (q.tcpmGetCc inp.cc).setPowerRole .source) rfl
    exact (hsource.setStateAny (s := .srcDisconnected) fun _ => rfl).presentRp.assign rfl
  · exact hcc

theorem attachSource (h : Actions b p q) (newCcState : CcState) :
    Actions b p (q.attachSource newCcState) := by
  have hpolarity := h.tail (.orient q (getSnkPolarity q.st.cc1 q.st.cc2))
  have hrole := hpolarity.resetMsgId.pdSetDataRole .ufp
  unfold Port.attachSource
  simp only [pdCommIsEnabled, if_true]
  split
  · refine .setStateAny (.sendControl ?_ (by decide)) fun _ => rfl
    split
    · exact .setFlags (.setFlags (.tcpmSetRxEnable (hrole.assign (by rfl)) true) _) _
    · exact .setFlags (.tcpmSetRxEnable (hrole.assign (by rfl)) true) _
  · exact .tcpmSetRxEnable (hrole.assign (by rfl)) true

theorem snkDisconnectedDebounce (h : Actions b p q) (inp : Input) :
    Actions b p (q.snkDisconnectedDebounce inp) := by
  have hcc := h.tcpmGetCc inp.cc
  unfold Port.snkDisconnectedDebounce
  simp only
  split
  · exact hcc.setStateAny fun _ => rfl
  · simp only [pdTrySrcEnable, Bool.false_eq_true, false_and, if_false]
    split_ifs
    · exact hcc.assign rfl
    · exact hcc
    · exact hcc.attachSource _

theorem snkHardResetRecover (h : Actions b p q) (hs : q.pd.taskState = .snkHardResetRecover)
    (inp : Input) : Actions b p (q.snkHardResetRecover inp) := by
  unfold Port.snkHardResetRecover
  simp only [pdIsVbusPresent, not_true, false_and, if_false, true_and]
  generalize hr : (if q.entering = true then _ else q) = r
  have hr' : Actions b p r := by
    rw [← hr]
    split
    · refine Actions.arm ((h.setFlags _).assign (by rfl)) ?_ ?_
      · simp only [Port.modifySt_pd, Port.setFlags_pd, hs]
        split_ifs
        · decide
        · decide
      · split_ifs <;> decide
    · exact h
  split_ifs
  · exact hr'.setStateAny fun _ => rfl
  · exact hr'

theorem updateTypecCurr (h : Actions b p q) (inp : Input) :
    Actions b p (q.updateTypecCurr inp) := by
  have hcc := h.tcpmGetCc inp.cc
  unfold Port.updateTypecCurr
  simp only
  split_ifs
  · exact hcc.assign rfl
  · exact hcc.assign rfl
  · exact hcc.assign rfl

theorem snkDiscovery (h : Actions b p q) (hs : q.pd.taskState = .snkDiscovery) (inp : Input) :
    Actions b p (q.snkDiscovery inp) := by
  have harm : Actions b p (q.armSnkDiscovery inp) := by
    unfold Port.armSnkDiscovery
    split_ifs
    · exact h.arm (by rw [hs]; decide) (by decide)
    · exact h.arm (by rw [hs]; decide) (by decide)
    · exact h.arm (by rw [hs]; decide) (by decide)
    · exact h
  unfold Port.snkDiscovery
  refine .updateTypecCurr ?_ inp
  simp only
  split_ifs
  · exact harm.assign rfl
  · exact harm
  · exact h

theorem snkRequested (h : Actions b p q) (hs : q.pd.taskState = .snkRequested) (inp : Input) :
    Actions b p (q.snkRequested inp) := by
  unfold Port.snkRequested
  split_ifs
  · refine Actions.arm (h.assign (by rfl)) ?_ (by decide)
    rw [Port.modifySt_pd, hs]
    decide
  · exact h

theorem snkReady (h : Actions b p q) (hs : q.pd.taskState = .snkReady) :
    Actions b p q.snkReady := by
  have hsent := h.pdSendRequestMsg (by rw [hs]; rfl) false
  unfold Port.snkReady
  split
  · exact h
  · split
    · simp only
      split_ifs
      · exact hsent.setStateAny fun _ => rfl
      · exact hsent
    · cases hchecks : q.readyChecks with
      | none => exact h
      | some s => exact h.readyChecks hchecks

theorem snkSwapStandby (h : Actions b p q) (hs : q.pd.taskState = .snkSwapStandby)
    (inp : Input) : Actions b p (q.snkSwapStandby inp) := by
  have hon := h.presentRp.pdSetPowerSupplyReady
  unfold Port.snkSwapStandby
  simp only
  split_ifs
  · exact hon.presentRd.setStateAny fun _ => rfl
  · refine hon.arm ?_ (by decide)
    rw [Port.pdSetPowerSupplyReady_pd, Port.tcpmSetCc_pd, hs]
    decide
  · exact h

theorem snkSwapComplete (h : Actions b p q) (hs : q.pd.taskState = .snkSwapComplete) :
    Actions b p q.snkSwapComplete := by
  have hsent := h.sendPsRdy (by rw [hs]; rfl)
  unfold Port.snkSwapComplete
  simp only
  split_ifs
  · exact hsent.presentRd.pdPowerSupplyReset.setStateAny fun _ => rfl
  · exact .setStateAny (.pdUpdateRoles (.assign (.resetMsgId (hsent.assign (by rfl))) (by rfl)))
      fun _ => rfl

theorem softReset (h : Actions b p q) (hs : q.pd.taskState = .softReset) (inp : Input) :
    Actions b p (q.softReset inp) := by
  have hsent : Actions b p (q.resetMsgId.sendControl .softReset).2 :=
    h.resetMsgId.sendControl (by decide)
  unfold Port.softReset
  simp only
  split_ifs
  · exact hsent.setState (by rw [Port.sendControl_pd, Port.resetMsgId_pd, hs]; rfl)
  · refine hsent.arm ?_ (by decide)
    rw [Port.sendControl_pd, Port.resetMsgId_pd, hs]
    decide
  · exact h

theorem sendHardReset (h : Actions b p q) (hs : q.pd.taskState = .hardResetSend) (inp : Input) :
    Actions b p (q.sendHardReset inp) := by
  have hsent := h.tail (.signal q (by decide : TransmitType.hardReset ≠ .sop))
  unfold Port.sendHardReset
  simp only
  split_ifs
  · exact h
  · exact hsent
  · refine Actions.arm (hsent.assign (by rfl)) ?_ (by decide)
    rw [Port.modifySt_pd, Port.pdTransmit_pd, hs]
    decide
  · refine .setState (hsent.assign (by rfl)) ?_
    rw [Port.modifySt_pd, Port.pdTransmit_pd, hs]
    rfl

theorem hardResetSend (h : Actions b p q) (hs : q.pd.taskState = .hardResetSend) (inp : Input) :
    Actions b p (q.hardResetSend inp) := by
  unfold Port.hardResetSend
  refine .sendHardReset (h.assign ?_) ?_ inp
  · split <;> rfl
  · split <;> exact hs

theorem hardResetExecute (h : Actions b p q) (inp : Input) :
    Actions b p (q.hardResetExecute inp) := by
  unfold Port.hardResetExecute
  refine .pdExecuteHardReset ?_ _
  split
  · exact h.presentRd
  · exact h

end Actions

end UsbPd
