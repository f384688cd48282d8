import UsbPd.Conduct.States

/-!
# Conduct of a run

Every event is a chain of actions, so a property that `setup` establishes and every action
keeps holds after every run.
-/

namespace UsbPd

namespace Actions

variable {b : Board} {p q : Port}

theorem runState (h : Actions b p q) (inp : Input) : Actions b p (q.runState b inp) := by
  -- an entry state arms a timer of its own
  have harm : ∀ {timeout s}, s ∈ q.pd.taskState.arms → s ≠ .srcTransition →
      Actions b p (q.armOnEntry timeout s) := h.armOnEntry
  unfold Port.runState
  cases hs : q.pd.taskState with
  | disabled => exact h
  | suspended => exact h.suspended
  | snkDisconnected => exact h.snkDisconnected hs inp
  | snkDisconnectedDebounce => exact h.snkDisconnectedDebounce inp
  | snkHardResetRecover => exact h.snkHardResetRecover hs inp
  | snkDiscovery => exact h.snkDiscovery hs inp
  | snkRequested => exact h.snkRequested hs inp
  | snkTransition => exact harm (by rw [hs]; decide) (by decide)
  | snkReady => exact h.snkReady hs
  | snkSwapInit => exact h.sendOnEntry inp (by decide) (by rw [hs]; decide) (by rw [hs]; rfl)
  | snkSwapSnkDisable =>
      refine h.noCurrent.setState ?_
      rw [Port.pdSetInputCurrentLimit_pd, hs]
      rfl
  | snkSwapSrcDisable => exact harm (by rw [hs]; decide) (by decide)
  | snkSwapStandby => exact h.snkSwapStandby hs inp
  | snkSwapComplete => exact h.snkSwapComplete hs
  | srcDisconnected => exact h.srcDisconnected hs inp
  | srcDisconnectedDebounce => exact h.srcDisconnectedDebounce hs inp
  | srcHardResetRecover => exact h.srcHardResetRecover hs inp
  | srcStartup => exact h.srcStartup hs inp
  | srcDiscovery => exact h.srcDiscovery hs inp
  | srcNegociate => exact harm (by rw [hs]; decide) (by decide)
  | srcAccepted => exact harm (by rw [hs]; decide) (by decide)
  | srcPowered => exact h.srcPowered hs inp
  | srcTransition => exact h.srcTransition hs
  | srcReady => exact h.srcReady hs
  | srcGetSinkCap => exact harm (by rw [hs]; decide) (by decide)
  | drSwap =>
      refine h.sendOnEntry inp (by decide) ?_ (q.enters_dualRoleIfElse rfl rfl)
      rw [hs]
      unfold Port.readyReturnState Port.dualRoleIfElse
      cases q.pd.powerRole
      · decide
      · decide
  | srcSwapInit => exact h.sendOnEntry inp (by decide) (by rw [hs]; decide) (by rw [hs]; rfl)
  | srcSwapSnkDisable => exact harm (by rw [hs]; decide) (by decide)
  | srcSwapSrcDisable => exact h.srcSwapSrcDisable hs inp
  | srcSwapStandby => exact h.srcSwapStandby hs inp
  | softReset => exact h.softReset hs inp
  | hardResetSend => exact h.hardResetSend hs inp
  | hardResetExecute => exact h.hardResetExecute inp

theorem checkSourceDetach (h : Actions b p q) (inp : Input) :
    Actions b p (q.checkSourceDetach inp) := by
  unfold Port.checkSourceDetach
  split
  · simp only [pdTrySrcEnable, Bool.false_eq_true, if_false]
    have hcc := h.tcpmGetCc inp.ccTail
    generalize hr : (if (q.tcpmGetCc inp.ccTail).pd.polarity = true then
        (q.tcpmGetCc inp.ccTail).modifySt fun st => { st with cc1 := st.cc2 }
      else q.tcpmGetCc inp.ccTail) = r
    have hr' : Actions b p r := by
      rw [← hr]
      split
      · exact hcc.assign rfl
      · exact hcc
    split_ifs
    · exact (hr'.call (c := .detach) rfl).setStateAny fun _ => rfl
    · exact hr'
  · exact h

theorem finish (h : Actions b p q) (thisState : PdState) (inp : Input) :
    Actions b p (q.finish thisState inp) := by
  have hlast : Actions b p ((q.setLast thisState).checkTimeout (inp.time .tail)) := by
    unfold Port.checkTimeout
    split_ifs
    · exact .changeState (h.assign (by rfl)) (.inl rfl)
    · exact h.assign rfl
  unfold Port.finish
  simp only [Port.checkSinkDetach_eq]
  split_ifs
  · exact hlast
  · exact hlast.checkSourceDetach inp

theorem beforeMessage (h : Actions b p q) (inp : Input) : Actions b p (q.beforeMessage inp) := by
  unfold Port.beforeMessage
  rw [Port.checkBoardAndEvents_eq]
  refine .pdVdmSendStateMachine ?_ _
  unfold Port.applyReset
  split
  · exact h.tail (.interrupt q)
  · exact h

theorem receive (h : Actions b p q) (inp : Input) : Actions b p (q.receive b inp) := by
  unfold Port.receive
  split
  · exact h
  · exact (h.call (c := .received _) rfl).handleRequest _ _

theorem applySuspend (h : Actions b p q) : Actions b p q.applySuspend := by
  unfold Port.applySuspend
  split_ifs
  · exact h.setStateAny fun _ => rfl
  · exact h

theorem pdRunStateMachine (h : Actions b p q) (inp : Input) :
    Actions b p (q.pdRunStateMachine b inp) :=
  .finish (.runState (.applySuspend (.receive (h.beforeMessage inp) inp)) inp) _ inp

/-! The interrupt handler. -/

theorem pdTransmitComplete (h : Actions b p q) (status : TxStatus) :
    Actions b p (q.pdTransmitComplete status) := by
  unfold Port.pdTransmitComplete
  split_ifs
  · exact .assign (h.tail (.msgId q (Nat.lt_succ_of_le Nat.and_le_right))) (by rfl)
  · exact h.assign rfl

theorem reported (h : Actions b p q) (c : Prop) [Decidable c] (status : TxStatus) :
    Actions b p (if c then q.pdTransmitComplete status else q) := by
  split_ifs
  · exact h.pdTransmitComplete status
  · exact h

theorem completeTransmissions (h : Actions b p q) (irq : Interrupts) :
    Actions b p (q.completeTransmissions irq) := by
  have hreports := ((h.reported (irq.collision = true) .failed).reported (irq.txSuccess = true)
    .success).reported (irq.retryFail = true) .failed
  unfold Port.completeTransmissions
  by_cases hsent : irq.hardSent = true
  · simp only [if_pos hsent]
    exact .pdTransmitComplete (hreports.tail (.pdReset _)) .success
  · simp only [if_neg hsent]
    exact hreports

theorem tcpcAlert (h : Actions b p q) (irq : Interrupts) (now : Nat) :
    Actions b p (q.tcpcAlert irq now) := by
  have hreported := (h.call (c := .alert irq) rfl).completeTransmissions irq
  unfold Port.tcpcAlert
  simp only
  generalize hr : (if irq.hardReset = true then _ else _) = r
  have hreset : Actions b p r := by
    rw [← hr]
    split
    · exact (hreported.tail (.pdReset _)).pdExecuteHardReset now
    · exact hreported
  split
  · exact hreset.tail (.flush r)
  · exact hreset

end Actions

namespace Port

/-- An event is a chain of actions. -/
theorem step_actions (b : Board) (p : Port) (e : Event) : Actions b p (p.step b e) := by
  cases e with
  | iterate inp => exact .pdRunStateMachine .refl inp
  | alert irq now => exact .tcpcAlert .refl irq now
  | softReset =>
      change Actions b p p.pdSoftReset
      unfold pdSoftReset
      split_ifs
      · exact .setStateAny .refl fun _ => rfl
      · exact .refl
  | requestPowerSwap =>
      change Actions b p p.pdRequestPowerSwap
      unfold pdRequestPowerSwap
      split_ifs with hsource hsink
      · exact .setState .refl (by rw [hsource]; rfl)
      · exact .setState .refl (by rw [hsink]; rfl)
      · exact .refl
  | requestDataSwap =>
      change Actions b p p.pdRequestDataSwap
      unfold pdRequestDataSwap
      split_ifs with hready
      · refine .setState .refl ?_
        rw [hready]
        unfold readyReturnState dualRoleIfElse
        cases p.pd.powerRole
        · rfl
        · rfl
      · exact .refl
  | sendVdm vid cmd data => exact .pdSendVdm .refl vid cmd data
  | setDualRole state => exact .assign .refl rfl
  | pingEnable enable => exact .setFlags .refl _
  | setNewPowerRequest => exact .assign .refl rfl
  | vbusLow => exact .setFlags .refl _
  | setMaxVoltage mv => exact .assign .refl rfl
  | button => exact .tail .refl (.press p)

/-- What every action keeps is kept by every run. -/
theorem after_kept {b : Board} {Inv : Port → Prop} (hsetup : Inv setup)
    (haction : ∀ p q, Action b p q → Inv p → Inv q) (es : List Event) : Inv (after b es) :=
  Machine.run_preserves
    (fun p e hp => Machine.chain_preserves haction (step_actions b p e) hp) hsetup es

end Port

end UsbPd
