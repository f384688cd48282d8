import UsbPd.Effects.Messages

/-!
# Effects of the states and of the events

Of the states, only `PD_STATE_SNK_READY` sends Requests.
-/

namespace UsbPd

namespace Effects

variable {R : Prop} {p q : Port}

theorem armOnEntry (h : Effects R p q) (timeout : Nat) (timeoutState : PdState) :
    Effects R p (q.armOnEntry timeout timeoutState) := by
  unfold Port.armOnEntry
  split_ifs
  · exact .assign h (by rfl)
  · exact h

/-! The states of a source. -/

theorem srcDisconnected (h : Effects R p q) (inp : Input) :
    Effects R p (q.srcDisconnected inp) := by
  have hcc : Effects R p (q.tcpmGetCc inp.cc) := .assign h (by rfl)
  unfold Port.srcDisconnected
  simp only
  split_ifs
  · exact .setState (.assign hcc (by rfl)) _
  · exact .assign (.setState (.assign hcc (r := (q.tcpmGetCc inp.cc).setPowerRole .sink) rfl) _)
      (by rfl)
  · exact hcc

theorem attachSink (h : Effects R p q) (newCcState : CcState) :
    Effects R p (q.attachSink newCcState) := by
  unfold Port.attachSink
  simp only [Port.pdSetPowerSupplyReady_fst, ne_eq, not_true, if_false, pdCommIsEnabled, if_true]
  refine .setState (.modifySt (.setFlags (.tcpmSetRxEnable (.pdSetPowerSupplyReady ?_) true) _) _
    (by rfl)) _
  split
  · exact .assign h (by rfl)
  · exact .assign h (by rfl)

theorem srcDisconnectedDebounce (h : Effects R p q) (inp : Input) :
    Effects R p (q.srcDisconnectedDebounce inp) := by
  have hcc : Effects R p (q.tcpmGetCc inp.cc) := .assign h (by rfl)
  unfold Port.srcDisconnectedDebounce
  simp only
  split
  · exact .setState hcc _
  · split_ifs
    · exact .assign hcc (by rfl)
    · exact hcc
    · exact .attachSink hcc _
    · exact hcc

theorem srcHardResetRecover (h : Effects R p q) (inp : Input) :
    Effects R p (q.srcHardResetRecover inp) := by
  unfold Port.srcHardResetRecover
  simp only
  split_ifs
  · exact h
  · exact .setState (.pdSetPowerSupplyReady h) _
  · exact .setState (.pdSetPowerSupplyReady h) _

theorem srcStartup (h : Effects R p q) (inp : Input) : Effects R p (q.srcStartup inp) := by
  have hstart : Effects R p (q.setFlags { q.pd.flags with checkIdentity := true }) :=
    .assign h (by rfl)
  unfold Port.srcStartup
  split_ifs
  · exact .assign hstart.resetMsgId (by rfl)
  · exact h

theorem srcDiscovery (h : Effects R p q) (b : Board) (inp : Input) :
    Effects R p (q.srcDiscovery b inp) := by
  unfold Port.srcDiscovery
  simp only
  generalize hr : (if q.entering = true ∧ q.pd.flags.previousPdConn = true then
      q.setStateTimeout (inp.time .switch + pdTNoResponse)
        (if q.st.hardResetCount < pdHardResetCount then .hardResetSend else .srcDisconnected)
    else q) = r
  have hr' : Effects R p r := by
    rw [← hr]
    split
    · exact .assign h (by rfl)
    · exact h
  split_ifs
  · exact .assign (.setState (.sendSourceCap hr' b) .srcNegociate) (by rfl)
  · exact .assign (.sendSourceCap hr' b) (by rfl)
  · exact hr'

theorem srcPowered (h : Effects R p q) (inp : Input) : Effects R p (q.srcPowered inp) := by
  unfold Port.srcPowered
  split_ifs
  · exact .assign (.call (c := .transitionVoltage q.pd.requestedIdx) h rfl) (by rfl)
  · exact h

theorem srcTransition (h : Effects R p q) : Effects R p q.srcTransition := by
  unfold Port.srcTransition
  simp only
  split_ifs
  · exact .setState (.sendControl h _) _
  · exact .setState (.sendControl h _) _

theorem srcPing (h : Effects R p q) : Effects R p q.srcPing := by
  unfold Port.srcPing
  simp only
  split_ifs
  · exact .sendControl h _
  · exact .setState (.sendControl h _) _
  · exact h

theorem readyChecks (h : Effects R p q) {r : Port} (hr : q.readyChecks = some r) :
    Effects R p r := by
  unfold Port.readyChecks at hr
  split_ifs at hr
  · obtain rfl := Option.some.inj hr
    exact .assign h (by rfl)
  · obtain rfl := Option.some.inj hr
    exact .assign h (by rfl)
  · obtain rfl := Option.some.inj hr
    exact .assign (.pdSendVdm h _ _ _) (by rfl)

theorem srcReady (h : Effects R p q) (b : Board) : Effects R p (q.srcReady b) := by
  unfold Port.srcReady
  split
  · exact h
  · split
    · simp only
      split_ifs
      · exact .assign (.setState (.sendSourceCap h b) .srcNegociate) (by rfl)
      · exact .sendSourceCap h b
    · split
      · exact .setState (.sendControl (.assign h (by rfl)) _) _
      · simp only
        generalize hr : (if q.pd.flags.snkCapRecvd = true then q
          else q.modifySt fun st => { st with snkCapCount := toInt32 (st.snkCapCount + 1) }) = r
        have hr' : Effects R p r := by
          rw [← hr]
          split
          · exact h
          · exact .assign h (by rfl)
        cases hchecks : r.readyChecks with
        | none => exact .srcPing hr'
        | some s => exact .readyChecks hr' hchecks

theorem sendOnEntry (h : Effects R p q) (inp : Input) (type : CtrlMsgType) (back : PdState) :
    Effects R p (q.sendOnEntry inp type back) := by
  unfold Port.sendOnEntry
  simp only
  split_ifs
  · exact .setState (.sendControl h _) _
  · exact .setState (.sendControl h _) _
  · exact .assign (.sendControl h type) (by rfl)
  · exact h

theorem srcSwapSrcDisable (h : Effects R p q) (inp : Input) :
    Effects R p (q.srcSwapSrcDisable inp) := by
  unfold Port.srcSwapSrcDisable
  split_ifs
  · exact .assign (.pdPowerSupplyReset h) (by rfl)
  · exact h

theorem srcSwapStandby (h : Effects R p q) (inp : Input) : Effects R p (q.srcSwapStandby inp) := by
  unfold Port.srcSwapStandby
  simp only
  split_ifs
  · exact .setState (.sendControl h _) _
  · exact .assign (.sendControl h .psRdy) (by rfl)
  · exact h

/-! The states of a sink. -/

theorem suspended (h : Effects R p q) : Effects R p q.suspended := by
  have hstart : Effects R p (q.modifyPd fun pd => { pd with reqSuspendState := false }) :=
    .assign h (by rfl)
  unfold Port.suspended
  simp only
  split_ifs
  · exact hstart
  · exact .setState hstart _

theorem snkDisconnected (h : Effects R p q) (inp : Input) :
    Effects R p (q.snkDisconnected inp) := by
  have hcc : Effects R p (q.tcpmGetCc inp.cc) := .assign h (by rfl)
  unfold Port.snkDisconnected
  simp only
  split_ifs
  · exact .setState (.assign hcc (by rfl)) _
  · exact .assign hcc (by rfl)
  · exact hcc
  · have hsource : Effects R p ((q.tcpmGetCc inp.cc).setPowerRole .source) := .assign hcc (by rfl)
    exact .assign (hsource.setState .srcDisconnected) (by rfl)
  · exact hcc

theorem attachSource (h : Effects R p q) (newCcState : CcState) :
    Effects R p (q.attachSource newCcState) := by
  unfold Port.attachSource
  simp only [pdCommIsEnabled, if_true]
  split
  · refine .setState (.sendControl ?_ _) _
    split
    · refine .setFlags (.setFlags (.tcpmSetRxEnable (.modifySt (.pdSetDataRole (.resetMsgId ?_) _) _
        (by rfl)) true) _) _
      exact .assign h (by rfl)
    · refine .setFlags (.tcpmSetRxEnable (.modifySt (.pdSetDataRole (.resetMsgId ?_) _) _
        (by rfl)) true) _
      exact .assign h (by rfl)
  · refine .tcpmSetRxEnable (.modifySt (.pdSetDataRole (.resetMsgId ?_) _) _ (by rfl)) true
    exact .assign h (by rfl)

theorem snkDisconnectedDebounce (h : Effects R p q) (inp : Input) :
    Effects R p (q.snkDisconnectedDebounce inp) := by
  have hcc : Effects R p (q.tcpmGetCc inp.cc) := .assign h (by rfl)
  unfold Port.snkDisconnectedDebounce
  simp only
  split
  · exact .setState hcc _
  · simp only [pdTrySrcEnable, Bool.false_eq_true, false_and, if_false]
    split_ifs
    · exact .assign hcc (by rfl)
    · exact hcc
    · exact .attachSource hcc _

theorem snkHardResetRecover (h : Effects R p q) (inp : Input) :
    Effects R p (q.snkHardResetRecover inp) := by
  unfold Port.snkHardResetRecover
  simp only [pdIsVbusPresent, not_true, false_and, if_false, true_and]
  generalize hr : (if q.entering = true then _ else q) = r
  have hr' : Effects R p r := by
    rw [← hr]
    split
    · exact .assign h (by rfl)
    · exact h
  split_ifs
  · exact .setState hr' _
  · exact hr'

theorem updateTypecCurr (h : Effects R p q) (inp : Input) :
    Effects R p (q.updateTypecCurr inp) := by
  have hcc : Effects R p (q.tcpmGetCc inp.cc) := .assign h (by rfl)
  unfold Port.updateTypecCurr
  simp only
  split_ifs
  · exact .assign hcc (by rfl)
  · exact .assign hcc (by rfl)
  · exact .assign hcc (by rfl)

theorem snkDiscovery (h : Effects R p q) (inp : Input) : Effects R p (q.snkDiscovery inp) := by
  have harm : Effects R p (q.armSnkDiscovery inp) := by
    unfold Port.armSnkDiscovery
    split_ifs
    · exact .assign h (by rfl)
    · exact .assign h (by rfl)
    · exact .assign h (by rfl)
    · exact h
  unfold Port.snkDiscovery
  refine .updateTypecCurr ?_ inp
  simp only
  split_ifs
  · exact .assign harm (by rfl)
  · exact harm
  · exact h

theorem snkRequested (h : Effects R p q) (inp : Input) : Effects R p (q.snkRequested inp) := by
  unfold Port.snkRequested
  split_ifs
  · exact .assign h (by rfl)
  · exact h

theorem snkReady (h : Effects R p q) (hR : R) : Effects R p q.snkReady := by
  unfold Port.snkReady
  split
  · exact h
  · split
    · simp only
      split_ifs
      · exact .setState (.pdSendRequestMsg h hR false) _
      · exact .pdSendRequestMsg h hR false
    · cases hchecks : q.readyChecks with
      | none => exact h
      | some s => exact .readyChecks h hchecks

theorem snkSwapStandby (h : Effects R p q) (inp : Input) : Effects R p (q.snkSwapStandby inp) := by
  have hon : Effects R p (q.tcpmSetCc .rp).pdSetPowerSupplyReady.2 :=
    .pdSetPowerSupplyReady (.assign h (by rfl))
  unfold Port.snkSwapStandby
  simp only
  split_ifs
  · exact .setState (.assign hon (by rfl)) _
  · exact .assign hon (by rfl)
  · exact h

theorem snkSwapComplete (h : Effects R p q) : Effects R p q.snkSwapComplete := by
  have hsent := h.sendControl .psRdy
  unfold Port.snkSwapComplete
  simp only
  split_ifs
  · exact .setState (.pdPowerSupplyReset (.assign hsent (by rfl))) _
  · refine .setState (.assign (.resetMsgId (.assign hsent ?_)) (by rfl)) _
    rfl

theorem softReset (h : Effects R p q) (inp : Input) : Effects R p (q.softReset inp) := by
  have hsent := h.resetMsgId.sendControl .softReset
  unfold Port.softReset
  simp only
  split_ifs
  · exact .setState hsent _
  · exact .assign hsent (by rfl)
  · exact h

theorem sendHardReset (h : Effects R p q) (inp : Input) : Effects R p (q.sendHardReset inp) := by
  have hsent : Effects R p (q.pdTransmit .hardReset 0 []).2 :=
    h.transmit _ _ _ (by intro hsop; cases hsop)
  unfold Port.sendHardReset
  simp only
  split_ifs
  · exact h
  · exact hsent
  · exact .assign hsent (by rfl)
  · exact .setState (.assign hsent (by rfl)) _

theorem hardResetSend (h : Effects R p q) (inp : Input) : Effects R p (q.hardResetSend inp) := by
  unfold Port.hardResetSend
  refine .sendHardReset (.assign h ?_) inp
  split <;> rfl

theorem hardResetExecute (h : Effects R p q) (inp : Input) :
    Effects R p (q.hardResetExecute inp) := by
  unfold Port.hardResetExecute
  refine .pdExecuteHardReset (.assign h ?_) _
  split <;> rfl

end Effects

end UsbPd
