import UsbPd.Control.Messages

/-!
# The states on the control machine

The handler of each state takes the control part of the port to one of the
outcomes that the control machine lists for that state. A handler that arms its
timer needs the deadline to be nonzero, which the added delay makes it; the two
attaches need to know which terminations the controller can measure.
-/

namespace UsbPd

/-- A state change stops the timer, so what it was does not matter. -/
@[simp] theorem Control.setState_arm (v : Control) (s next : PdState) :
    (v.arm s).setState next = v.setState next := rfl

@[simp] theorem Control.setState_armOnEntry (v : Control) (s next : PdState) :
    (v.armOnEntry s).setState next = v.setState next := by
  unfold armOnEntry
  split <;> simp

@[simp] theorem Control.armOnEntry_txOk (v : Control) (s : PdState) :
    (v.armOnEntry s).txOk = v.txOk := by
  unfold armOnEntry
  split <;> rfl

namespace Port

variable (p : Port)

theorem control_fewResets : p.control.fewResets = decide (p.st.hardResetCount < pdHardResetCount) :=
  rfl

/-! Readings of the CC lines. -/

/-- A termination of a sink is only seen while Rp is presented. -/
theorem pullingUp_of_rd_ra (r : CcReading)
    (h : (p.tcpmGetCc r).st.cc1 = .rd ∨ (p.tcpmGetCc r).st.cc2 = .rd ∨
      (p.tcpmGetCc r).st.cc1 = .ra) :
    p.chip.pullingUp = true := by
  by_contra hup
  obtain ⟨h₁, h₂⟩ := p.chip.getCc_sink r p.st.cc1 p.st.cc2 (by simpa using hup)
  change (p.tcpmGetCc r).st.cc1 ∈ _ at h₁
  change (p.tcpmGetCc r).st.cc2 ∈ _ at h₂
  rcases h with h | h | h
  · rw [h] at h₁
    simp at h₁
  · rw [h] at h₂
    simp at h₂
  · rw [h] at h₁
    simp at h₁

/-- A termination of a source is not seen while Rp is presented without VCONN. -/
theorem not_pullingUp_of_rp (r : CcReading)
    (h : ccIsRp (p.tcpmGetCc r).st.cc1 = true ∨ ccIsRp (p.tcpmGetCc r).st.cc2 = true) :
    p.chip.pullingUp = false ∨ p.chip.vconnEnabled = true := by
  by_contra hnot
  rw [not_or, Bool.not_eq_false, Bool.not_eq_true] at hnot
  obtain ⟨h₁, h₂⟩ := p.chip.getCc_source r p.st.cc1 p.st.cc2 hnot.1 hnot.2
  change (p.tcpmGetCc r).st.cc1 ∈ _ at h₁
  change (p.tcpmGetCc r).st.cc2 ∈ _ at h₂
  have hsource : ∀ cc ∈ [CcVoltage.open, .ra, .rd], ccIsRp cc = false := by decide
  rcases h with h | h
  · rw [hsource _ h₁] at h
    cases h
  · rw [hsource _ h₂] at h
    cases h

theorem srcCcState_attach (q : Port) {state : CcState} (h : q.srcCcState = some state)
    (hattach : state = .ufpAttached ∨ state = .debugAcc) :
    q.st.cc1 = .rd ∨ q.st.cc2 = .rd := by
  unfold srcCcState at h
  by_cases hboth : q.st.cc1 = .rd ∧ q.st.cc2 = .rd
  · exact .inl hboth.1
  by_cases hone : q.st.cc1 = .rd ∨ q.st.cc2 = .rd
  · exact hone
  · rw [if_neg hboth, if_neg hone] at h
    by_cases haudio : q.st.cc1 = .ra ∧ q.st.cc2 = .ra
    · rw [if_pos haudio] at h
      rcases hattach with rfl | rfl <;> simp at h
    · rw [if_neg haudio] at h
      cases h

theorem snkCcState_rp (q : Port) {state : CcState} (h : q.snkCcState = some state) :
    ccIsRp q.st.cc1 = true ∨ ccIsRp q.st.cc2 = true := by
  unfold snkCcState at h
  by_cases hone : ccIsRp q.st.cc1 = true ∨ ccIsRp q.st.cc2 = true
  · exact hone
  · have hboth : ¬ (ccIsRp q.st.cc1 = true ∧ ccIsRp q.st.cc2 = true) :=
      fun h => hone (.inl h.1)
    rw [if_neg hboth, if_neg hone] at h
    cases h

theorem snkCcState_attach (q : Port) {state : CcState} (h : q.snkCcState = some state) :
    state = .dfpAttached ∨ state = .debugAcc := by
  unfold snkCcState at h
  split_ifs at h with hboth hone
  · exact .inr (Option.some.inj h).symm
  · exact .inl (Option.some.inj h).symm

/-! Timers. -/

theorem add_delay_ne_zero (now delay : Nat) (h : delay ≠ 0) : now + delay ≠ 0 := by
  omega

theorem control_armOnEntry {timeout : Nat} (h : timeout ≠ 0) (next : PdState) :
    (p.armOnEntry timeout next).control = p.control.armOnEntry next := by
  unfold armOnEntry Control.armOnEntry
  by_cases hentry : p.entering
  · simp [hentry, control_setStateTimeout _ h]
  · simp [hentry]

/-- The only failure that `pd_transmit` reports is a missing GoodCRC. -/
theorem sendControl_eq_neg_one (type : CtrlMsgType) (h : p.control.txOk = false) :
    (p.sendControl type).1 = -1 := by
  have hneg := (p.sendControl_neg type).2 h
  change (p.pdTransmit .sop _ []).1 = -1
  change (p.pdTransmit .sop _ []).1 < 0 at hneg
  rw [pdTransmit_fst] at hneg ⊢
  by_cases hstatus : p.pd.txStatus = .success
  · rw [if_pos hstatus] at hneg
    omega
  · rw [if_neg hstatus]

theorem control_sendOnEntry (inp : Input) (type : CtrlMsgType) (back : PdState) :
    (p.sendOnEntry inp type back).control = p.control.sendOnEntry back := by
  have htimeout := add_delay_ne_zero (inp.time .switch) pdTSenderResponse (by decide)
  unfold sendOnEntry Control.sendOnEntry
  by_cases hentry : p.entering
  · by_cases htx : p.control.txOk = true
    · have hsent : ¬ (p.sendControl type).1 < 0 := by
        simp [sendControl_neg, htx]
      simp [hentry, hsent, htx, control_setStateTimeout _ htimeout]
    · have hres := p.sendControl_eq_neg_one type (by simpa using htx)
      simp [hentry, hres, htx]
  · simp [hentry]

/-! Polarity and reception. -/

@[simp] theorem pdSetDataRole_ccPolarity (role : DataRole) :
    (p.pdSetDataRole role).chip.ccPolarity = p.chip.ccPolarity := by
  simp [pdSetDataRole, pdUpdateRoles, tcpmSetMsgHeader]

@[simp] theorem tcpmSetPolarity_ccPolarity (polarity : Bool) :
    (p.tcpmSetPolarity polarity).chip.ccPolarity = 0 ∨
      (p.tcpmSetPolarity polarity).chip.ccPolarity = 1 := by
  cases polarity
  · exact .inl rfl
  · exact .inr rfl

theorem control_modifySt_count (g : Statics → Statics)
    (h : (g p.st).hardResetSent = p.st.hardResetSent) :
    (p.modifySt g).control = p.control.setFew (fewHardResets (g p.st).hardResetCount) := by
  simp [control, Control.setFew, h]

@[simp] theorem fewHardResets_zero : fewHardResets 0 = true := by
  decide

/-! The states of a source. -/

theorem control_srcDisconnected_mem (inp : Input) (h : p.pd.taskState = .srcDisconnected) :
    (p.srcDisconnected inp).control ∈ p.control.runState := by
  have hrun : p.control.runState =
      [p.control, ((p.control.setRole .sink).setState .snkDisconnected).setPull false] ++
        (if p.control.pullingUp then [p.control.setState .srcDisconnectedDebounce] else []) := by
    simp only [Control.runState, control_task, h]
  unfold srcDisconnected
  simp only
  split_ifs with hattach hswap
  · have hup : p.chip.pullingUp = true := by
      refine p.pullingUp_of_rd_ra inp.cc ?_
      rcases hattach with (h₁ | h₂) | ⟨h₁, -⟩
      · exact .inl h₁
      · exact .inr (.inl h₂)
      · exact .inr (.inr h₁)
    rw [hrun]
    simp [hup, control_modifyPd]
  · rw [hrun]
    simp [control_modifyPd, control_modifySt]
  · rw [hrun]
    simp

theorem control_attachSink (newCcState : CcState) :
    (p.attachSink newCcState).control = p.control.attachSink := by
  unfold attachSink Control.attachSink
  by_cases hdebug : newCcState = .debugAcc
  · simp [hdebug, pdCommIsEnabled, control_modifySt_count, control_tcpmSetRxEnable_true,
      control_modifyPd]
  · simp [hdebug, pdCommIsEnabled, control_modifySt_count, control_tcpmSetRxEnable_true,
      control_modifyPd]

theorem control_srcDisconnectedDebounce_mem (inp : Input)
    (h : p.pd.taskState = .srcDisconnectedDebounce) :
    (p.srcDisconnectedDebounce inp).control ∈ p.control.runState := by
  have hrun : p.control.runState = [p.control, p.control.setState .srcDisconnected] ++
      (if p.control.pullingUp then [p.control.attachSink] else []) := by
    simp only [Control.runState, control_task, h]
  unfold srcDisconnectedDebounce
  simp only
  cases hstate : (p.tcpmGetCc inp.cc).srcCcState with
  | none =>
      rw [hrun]
      simp
  | some newCcState =>
      simp only
      split_ifs with hchange hwait hattach
      · rw [hrun]
        simp [control_modifyPd]
      · rw [hrun]
        simp
      · have hup : p.chip.pullingUp = true := by
          refine p.pullingUp_of_rd_ra inp.cc ?_
          rcases srcCcState_attach _ hstate hattach with h₁ | h₂
          · exact .inl h₁
          · exact .inr (.inl h₂)
        rw [hrun]
        simp [hup, control_attachSink]
      · rw [hrun]
        simp

theorem control_srcHardResetRecover_mem (inp : Input)
    (h : p.pd.taskState = .srcHardResetRecover) :
    (p.srcHardResetRecover inp).control ∈ p.control.runState := by
  have hrun : p.control.runState =
      [p.control, (p.control.note (.vbus true)).setState .srcStartup] := by
    simp only [Control.runState, control_task, h]
  unfold srcHardResetRecover
  rw [hrun]
  split
  · simp
  · simp

theorem control_srcStartup (inp : Input) :
    (p.srcStartup inp).control = p.control.armOnEntry .srcDiscovery := by
  have htimeout :=
    add_delay_ne_zero (inp.time .switch) pdPowerSupplyTurnOnDelay (by decide)
  unfold srcStartup Control.armOnEntry
  by_cases hentry : p.entering
  · simp [hentry, control_setStateTimeout _ htimeout, control_modifySt]
  · simp [hentry]

/-- The capabilities go out while fewer than `PD_CAPS_COUNT` were sent. -/
theorem control_srcDiscovery_mem (b : Board) (inp : Input) (h : p.pd.taskState = .srcDiscovery) :
    (p.srcDiscovery b inp).control ∈ p.control.runState := by
  have hrun : p.control.runState =
      [p.control, p.control.armOnEntry
          (if p.control.fewResets then .hardResetSend else .srcDisconnected)] ++
        (if p.control.txOk then [(p.control.setState .srcNegociate).setFew true] else []) := by
    simp only [Control.runState, control_task, h]
  have htimeout := add_delay_ne_zero (inp.time .switch) pdTNoResponse (by decide)
  have hcases : ∀ q : Port, (q.control = p.control ∨ q.control = p.control.armOnEntry
        (if p.control.fewResets then .hardResetSend else .srcDisconnected)) →
      (∀ s, q.control.setState s = p.control.setState s) ∧ q.control.txOk = p.control.txOk := by
    intro q hq
    rcases hq with hq | hq <;> simp [hq]
  rw [hrun]
  unfold srcDiscovery
  simp only
  generalize hq : (if p.entering = true ∧ p.pd.flags.previousPdConn = true then
      p.setStateTimeout (inp.time .switch + pdTNoResponse)
        (if p.st.hardResetCount < pdHardResetCount then PdState.hardResetSend
          else PdState.srcDisconnected)
    else p) = q
  have hcontrol : q.control = p.control ∨ q.control = p.control.armOnEntry
      (if p.control.fewResets then .hardResetSend else .srcDisconnected) := by
    rw [← hq]
    split
    · rename_i hentry
      right
      simp [Control.armOnEntry, hentry.1, control_setStateTimeout _ htimeout, control_fewResets]
    · exact .inl rfl
  obtain ⟨hset, htx⟩ := hcases q hcontrol
  by_cases hcount : q.st.capsCount < pdCapsCount
  · rw [if_pos hcount]
    by_cases hok : p.control.txOk = true
    · have hsent : 0 ≤ (q.sendSourceCap b).1 := by
        rw [sendSourceCap_nonneg, htx, hok]
      simp [hsent, hok, hset, control_modifySt_count]
    · have hfail : ¬ 0 ≤ (q.sendSourceCap b).1 := by
        rw [sendSourceCap_nonneg, htx]
        exact hok
      rw [if_neg hfail]
      rcases hcontrol with hq | hq <;> simp [hq, control_modifySt]
  · rw [if_neg hcount]
    rcases hcontrol with hq | hq <;> simp [hq]

theorem control_srcPowered (inp : Input) :
    (p.srcPowered inp).control = p.control.armOnEntry .srcTransition := by
  have htimeout :=
    add_delay_ne_zero (inp.time .switch) pdPowerSupplyTurnOnDelay (by decide)
  unfold srcPowered Control.armOnEntry
  by_cases hentry : p.entering
  · simp [hentry, control_setStateTimeout _ htimeout]
  · simp [hentry]

theorem control_srcTransition :
    p.srcTransition.control = if p.control.txOk then p.control.setState .srcReady
      else p.control.setState .srcDisconnected := by
  unfold srcTransition
  by_cases htx : p.control.txOk = true
  · have hsent : 0 ≤ (p.sendControl .psRdy).1 := by
      rw [sendControl_nonneg, htx]
    simp [hsent, htx]
  · have hfail : ¬ 0 ≤ (p.sendControl .psRdy).1 := by
      rw [sendControl_nonneg]
      exact htx
    simp [hfail, htx]

/-- The policy checks of the READY states change flags and queue messages only. -/
theorem control_readyChecks {q : Port} (h : p.readyChecks = some q) : q.control = p.control := by
  unfold readyChecks at h
  split_ifs at h with hpr hdr hident
  · obtain rfl := Option.some.inj h
    simp
  · obtain rfl := Option.some.inj h
    simp
  · obtain rfl := Option.some.inj h
    simp

theorem control_srcPing : p.srcPing.control = p.control ∨
    (p.control.txOk = false ∧ p.srcPing.control = p.control.setState .softReset) := by
  unfold srcPing
  by_cases hping : p.pd.flags.pingEnabled = true
  · by_cases htx : p.control.txOk = true
    · have hsent : 0 ≤ (p.sendControl .ping).1 := by
        rw [sendControl_nonneg, htx]
      left
      simp [hping, hsent]
    · have hfail : ¬ 0 ≤ (p.sendControl .ping).1 := by
        rw [sendControl_nonneg]
        exact htx
      right
      exact ⟨by simpa using htx, by simp [hping, hfail]⟩
  · left
    simp [hping]

/-- What `PD_STATE_SRC_READY` does once its own requests are out. -/
theorem control_readyChecks_getD_srcPing : (p.readyChecks.getD p.srcPing).control = p.control ∨
    (p.control.txOk = false ∧
      (p.readyChecks.getD p.srcPing).control = p.control.setState .softReset) := by
  cases hchecks : p.readyChecks with
  | none => exact p.control_srcPing
  | some q => exact .inl (p.control_readyChecks hchecks)

theorem control_srcReady_mem (b : Board) (h : p.pd.taskState = .srcReady) :
    (p.srcReady b).control ∈ p.control.runState := by
  have hrun : p.control.runState = [p.control, p.control.setState .srcGetSinkCap] ++
      (if p.control.txOk then [p.control.setState .srcNegociate]
        else [p.control.setState .softReset]) := by
    simp only [Control.runState, control_task, h]
  have hready : ∀ q : Port, q.control = p.control →
      (q.readyChecks.getD q.srcPing).control ∈ p.control.runState := by
    intro q hq
    rw [hrun]
    rcases q.control_readyChecks_getD_srcPing with hready | ⟨htx, hready⟩
    · rw [hready, hq]
      simp
    · rw [hq] at htx hready
      rw [hready]
      simp [htx]
  unfold srcReady
  by_cases hbusy : evt.rx = true ∨ p.pd.vdmState = .busy
  · rw [if_pos hbusy, hrun]
    simp
  rw [if_neg hbusy]
  by_cases hupdate : p.pd.flags.updateSrcCaps = true
  · rw [if_pos hupdate, hrun]
    by_cases htx : p.control.txOk = true
    · have hsent : 0 ≤ (p.sendSourceCap b).1 := by
        rw [sendSourceCap_nonneg, htx]
      simp [hsent, htx]
    · have hfail : ¬ 0 ≤ (p.sendSourceCap b).1 := by
        rw [sendSourceCap_nonneg]
        exact htx
      simp [hfail]
  rw [if_neg hupdate]
  by_cases hcaps : ¬ p.pd.flags.snkCapRecvd = true ∧
      toInt32 (p.st.snkCapCount + 1) ≤ pdSnkCapRetries
  · rw [if_pos hcaps, hrun]
    simp [control_modifySt]
  · rw [if_neg hcaps]
    refine hready _ ?_
    by_cases hrecvd : p.pd.flags.snkCapRecvd = true
    · rw [if_pos hrecvd]
    · rw [if_neg hrecvd]
      exact p.control_modifySt _ ⟨rfl, rfl⟩

theorem control_srcSwapSrcDisable (inp : Input) :
    (p.srcSwapSrcDisable inp).control =
      if p.control.entering then (p.control.note (.vbus false)).arm .srcSwapStandby
      else p.control := by
  have htimeout :=
    add_delay_ne_zero (inp.time .switch) pdPowerSupplyTurnOffDelay (by decide)
  unfold srcSwapSrcDisable
  by_cases hentry : p.entering = true
  · simp [hentry, control_setStateTimeout _ htimeout]
  · simp [hentry]

theorem control_srcSwapStandby (inp : Input) :
    (p.srcSwapStandby inp).control =
      if p.control.entering then
        if p.control.txOk then ((p.control.setPull false).setRole .sink).arm .snkDisconnected
        else p.control.setState .srcDisconnected
      else p.control := by
  have htimeout := add_delay_ne_zero (inp.time .switch) pdTPsSourceOn (by decide)
  unfold srcSwapStandby
  by_cases hentry : p.entering = true
  · by_cases htx : p.control.txOk = true
    · have hsent : ¬ (p.sendControl .psRdy).1 < 0 := by
        rw [sendControl_neg, htx]
        simp
      simp [hentry, hsent, htx, control_setStateTimeout _ htimeout]
    · have hfail : (p.sendControl .psRdy).1 < 0 := by
        rw [sendControl_neg]
        simpa using htx
      simp [hentry, hfail, htx]
  · simp [hentry]

/-! The states of a sink. -/

/-- Initialising the driver always succeeds, so the port leaves the suspended
state at once. -/
theorem control_suspended :
    p.suspended.control = p.control.clearSuspending.setState .snkDisconnected := by
  have hcontrol : (p.modifyPd fun pd => { pd with reqSuspendState := false }).control =
      p.control.clearSuspending := rfl
  unfold suspended
  simp [tcpmInit, hcontrol]

theorem control_snkDisconnected_mem (inp : Input) (h : p.pd.taskState = .snkDisconnected) :
    (p.snkDisconnected inp).control ∈ p.control.runState := by
  have hrun : p.control.runState =
      [p.control, (p.control.setFew true).setState .snkDisconnectedDebounce,
        ((p.control.setRole .source).setState .srcDisconnected).setPull true] := by
    simp only [Control.runState, control_task, h]
  unfold snkDisconnected
  simp only
  split_ifs
  · rw [hrun, control_setState, control_modifySt_count _ _ rfl, control_modifyPd _ _ (by simp),
      control_tcpmGetCc]
    simp
  · rw [hrun]
    simp
  · rw [hrun]
    simp
  · rw [hrun]
    simp [control_modifySt]
  · rw [hrun]
    simp

theorem control_attachSource (newCcState : CcState)
    (h : newCcState = .dfpAttached ∨ newCcState = .debugAcc) :
    (p.attachSource newCcState).control = p.control.attachSource := by
  unfold attachSource Control.attachSource
  by_cases hdebug : newCcState = .debugAcc
  · simp [hdebug, pdCommIsEnabled, control_modifySt, control_tcpmSetRxEnable_true,
      control_modifyPd]
  · simp [h.resolve_right hdebug, pdCommIsEnabled, control_modifySt,
      control_tcpmSetRxEnable_true, control_modifyPd]

theorem control_snkDisconnectedDebounce_mem (inp : Input)
    (h : p.pd.taskState = .snkDisconnectedDebounce) :
    (p.snkDisconnectedDebounce inp).control ∈ p.control.runState := by
  have hrun : p.control.runState = [p.control, p.control.setState .snkDisconnected] ++
      (if ¬ p.control.pullingUp ∨ p.control.vconn then [p.control.attachSource] else []) := by
    simp only [Control.runState, control_task, h]
  have htry : ¬ (pdTrySrcEnable = true ∧ ¬ (p.tcpmGetCc inp.cc).pd.flags.trySrc = true) := by
    simp [pdTrySrcEnable]
  unfold snkDisconnectedDebounce
  simp only
  cases hstate : (p.tcpmGetCc inp.cc).snkCcState with
  | none =>
      rw [hrun]
      simp
  | some newCcState =>
      have hrp := snkCcState_rp _ hstate
      have hkind : newCcState = .dfpAttached ∨ newCcState = .debugAcc := by
        exact snkCcState_attach _ hstate
      have hterm : ¬ p.control.pullingUp ∨ p.control.vconn := by
        have := p.not_pullingUp_of_rp inp.cc hrp
        simpa using this
      simp only
      split_ifs with hchange hwait
      · rw [hrun]
        simp [control_modifyPd]
      · rw [hrun]
        simp
      · rw [hrun, if_pos hterm, control_attachSource _ _ hkind, control_tcpmGetCc]
        simp

theorem control_snkHardResetRecover_mem (inp : Input)
    (h : p.pd.taskState = .snkHardResetRecover) :
    (p.snkHardResetRecover inp).control ∈ p.control.runState := by
  have hrun : p.control.runState =
      [p.control.armOnEntry (if p.control.fewResets then .hardResetSend else .snkDiscovery),
        (p.control.armOnEntry (if p.control.fewResets then .hardResetSend
          else .snkDiscovery)).setState .snkDiscovery] := by
    simp only [Control.runState, control_task, h]
  have htimeout := add_delay_ne_zero (inp.time .switch) pdTSafe0v (by decide)
  unfold snkHardResetRecover
  rw [hrun]
  by_cases hentry : p.entering = true
  · by_cases hcount : p.st.hardResetCount < pdHardResetCount
    · simp [hentry, Control.armOnEntry, pdIsVbusPresent, control_setStateTimeout _ htimeout,
        control_modifySt, control_fewResets, hcount]
    · simp [hentry, Control.armOnEntry, pdIsVbusPresent, control_setStateTimeout _ htimeout,
        control_modifySt, control_fewResets, hcount]
  · by_cases hoff : p.st.snkHardResetVbusOff = true
    · simp [hentry, Control.armOnEntry, pdIsVbusPresent, hoff]
    · simp [hentry, Control.armOnEntry, pdIsVbusPresent, hoff]

theorem control_armSnkDiscovery_mem (inp : Input) :
    (p.armSnkDiscovery inp).control ∈ [p.control.arm .softReset] ++
      (if p.control.fewResets then [p.control.arm .hardResetSend]
        else [p.control, p.control.arm .snkDisconnected]) := by
  have hwait := add_delay_ne_zero (inp.time .switch) pdTSinkWaitCap (by decide)
  have hnone := add_delay_ne_zero (inp.time .switch) pdTNoResponse (by decide)
  unfold armSnkDiscovery
  by_cases hlow : p.pd.flags.vbusNeverLow = true
  · simp [hlow, control_setStateTimeout _ hwait]
  by_cases hcount : p.st.hardResetCount < pdHardResetCount
  · simp [hlow, hcount, control_fewResets, control_setStateTimeout _ hwait]
  by_cases hconn : p.pd.flags.previousPdConn = true
  · simp [hlow, hcount, hconn, control_fewResets, control_setStateTimeout _ hnone]
  · simp [hlow, hcount, hconn, control_fewResets]

@[simp] theorem control_updateTypecCurr (inp : Input) :
    (p.updateTypecCurr inp).control = p.control := by
  unfold updateTypecCurr
  simp only
  split_ifs
  · rw [control_modifySt _ _ ⟨rfl, rfl⟩, control_modifySt _ _ ⟨rfl, rfl⟩, control_tcpmGetCc]
  · rw [control_modifySt _ _ ⟨rfl, rfl⟩, control_tcpmGetCc]
  · rw [control_modifySt _ _ ⟨rfl, rfl⟩, control_tcpmGetCc]

theorem control_snkDiscovery_mem (inp : Input) (h : p.pd.taskState = .snkDiscovery) :
    (p.snkDiscovery inp).control ∈ p.control.runState := by
  have hrun : p.control.runState = if p.control.entering then
      [p.control.arm .softReset] ++
        (if p.control.fewResets then [p.control.arm .hardResetSend]
          else [p.control, p.control.arm .snkDisconnected])
      else [p.control] := by
    simp only [Control.runState, control_task, h]
  have harm := p.control_armSnkDiscovery_mem inp
  unfold snkDiscovery
  rw [hrun]
  by_cases hentry : p.entering = true
  · rw [if_pos (show p.control.entering = true from hentry)]
    simp only [hentry, pdCommIsEnabled, and_self, if_true, control_updateTypecCurr]
    by_cases hlast : (p.armSnkDiscovery inp).pd.lastState ≠ .snkDisconnectedDebounce
    · rw [if_pos hlast, control_modifySt _ _ ⟨rfl, rfl⟩]
      exact harm
    · rw [if_neg hlast]
      exact harm
  · simp [hentry]

theorem control_snkRequested (inp : Input) :
    (p.snkRequested inp).control =
      if p.control.entering then (p.control.setFew true).arm .hardResetSend else p.control := by
  have htimeout := add_delay_ne_zero (inp.time .switch) pdTSenderResponse (by decide)
  unfold snkRequested
  by_cases hentry : p.entering = true
  · simp only [hentry, if_true, control_entering]
    rw [control_setStateTimeout _ htimeout, control_modifySt_count _ _ rfl]
    rfl
  · simp [hentry]

theorem control_snkReady_mem (h : p.pd.taskState = .snkReady) :
    p.snkReady.control ∈ p.control.runState := by
  have hrun : p.control.runState = [p.control] ++
      (if p.control.txOk then [p.control.setState .snkRequested]
        else [p.control.setState .softReset]) := by
    simp only [Control.runState, control_task, h]
  unfold snkReady
  split_ifs with hbusy hrequest
  · rw [hrun]
    simp
  · rw [hrun]
    rcases p.pdSendRequestMsg_cases false with
      ⟨hres, htx, hsent⟩ | ⟨hres, -, hskip⟩ | ⟨hres, htx, hfail⟩
    · simp [hres, htx, hsent]
    · simp [hres, hskip]
    · simp [hres, htx, hfail]
  · rw [hrun]
    cases hchecks : p.readyChecks with
    | none => simp
    | some q => simp [p.control_readyChecks hchecks]

theorem control_snkSwapStandby (inp : Input) :
    (p.snkSwapStandby inp).control =
      if p.control.entering then
        ((p.control.setPull true).note (.vbus true)).arm .snkSwapComplete
      else p.control := by
  have htimeout :=
    add_delay_ne_zero (inp.time .switch) pdPowerSupplyTurnOnDelay (by decide)
  unfold snkSwapStandby
  by_cases hentry : p.entering = true
  · simp [hentry, control_setStateTimeout _ htimeout]
  · simp [hentry]

theorem control_snkSwapComplete :
    p.snkSwapComplete.control =
      if p.control.txOk then (p.control.setRole .source).setState .srcDiscovery
      else ((p.control.setPull false).note (.vbus false)).setState .snkDisconnected := by
  unfold snkSwapComplete
  by_cases htx : p.control.txOk = true
  · have hsent : ¬ (p.sendControl .psRdy).1 < 0 := by
      rw [sendControl_neg, htx]
      simp
    simp [hsent, htx, control_modifySt]
  · have hfail : (p.sendControl .psRdy).1 < 0 := by
      rw [sendControl_neg]
      simpa using htx
    simp [hfail, htx]

/-! Resets. -/

theorem control_softReset (inp : Input) :
    (p.softReset inp).control =
      if p.control.entering then
        if p.control.txOk then p.control.arm .hardResetSend
        else p.control.setState .hardResetSend
      else p.control := by
  have htimeout := add_delay_ne_zero (inp.time .switch) pdTSenderResponse (by decide)
  unfold softReset
  by_cases hentry : p.entering = true
  · by_cases htx : p.control.txOk = true
    · have hsent : ¬ (p.resetMsgId.sendControl .softReset).1 < 0 := by
        rw [sendControl_neg, control_resetMsgId, htx]
        simp
      simp [hentry, hsent, htx, control_setStateTimeout _ htimeout]
    · have hfail : (p.resetMsgId.sendControl .softReset).1 < 0 := by
        rw [sendControl_neg, control_resetMsgId]
        simpa using htx
      simp [hentry, hfail, htx]
  · simp [hentry]

theorem control_sendHardReset (inp : Input) :
    (p.sendHardReset inp).control = p.control.sendHardReset := by
  have htimeout := add_delay_ne_zero (inp.time .switch) pdTPsHardReset (by decide)
  have hsent : ((p.pdTransmit .hardReset 0#16 []).2.modifySt
      fun st => { st with hardResetSent := true }).control =
      (p.control.note (.transmit .hardReset 0#16 [] 0)).setSent true := rfl
  unfold sendHardReset Control.sendHardReset
  by_cases hdone : p.st.hardResetSent = true
  · simp [hdone]
  by_cases htx : p.control.txOk = true
  · have hpos : ¬ (p.pdTransmit .hardReset 0#16 []).1 < 0 := by
      rw [pdTransmit_fst_neg, htx]
      simp
    by_cases hrole : p.pd.powerRole = .source
    · simp [hdone, hpos, htx, hrole, control_setStateTimeout _ htimeout, hsent]
    · simp [hdone, hpos, htx, hrole, hsent]
  · have hneg : (p.pdTransmit .hardReset 0#16 []).1 < 0 := by
      rw [pdTransmit_fst_neg]
      simpa using htx
    simp [hdone, hneg, htx]

theorem control_hardResetSend (inp : Input) :
    ∃ few, (p.hardResetSend inp).control = p.control.hardResetSend few := by
  refine ⟨fewHardResets (toInt32 (p.st.hardResetCount + 1)), ?_⟩
  unfold hardResetSend Control.hardResetSend
  simp only [control_sendHardReset]
  congr 1
  split
  · rfl
  · rfl

theorem control_hardResetExecute (inp : Input) :
    (p.hardResetExecute inp).control =
      (if p.control.last = .snkSwapStandby then p.control.setPull false
        else p.control).executeHardReset := by
  unfold hardResetExecute
  by_cases hlast : p.pd.lastState = .snkSwapStandby
  · simp [hlast]
  · simp [hlast]

end Port

end UsbPd
