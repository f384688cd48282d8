import UsbPd.Effects.States

/-!
# Effects of the events

An event is a chain of effects, except that an iteration records the message it
receives and an alert the interrupts it polls and reports. A property kept by
the effects, by these records and by the reports is therefore kept by every run.
-/

namespace UsbPd

/-- The event can have the effects of a negotiation. -/
def Event.negotiates : Event → Bool
  | .iterate _ => true
  | .setNewPowerRequest => true
  | .button => true
  | _ => false

namespace Effects

variable {R : Prop} {p q : Port}

theorem runState (h : Effects R p q) (b : Board) (inp : Input)
    (hR : q.pd.taskState = .snkReady → R) : Effects R p (q.runState b inp) := by
  unfold Port.runState
  cases htask : q.pd.taskState with
  | disabled => exact h
  | suspended => exact .suspended h
  | snkDisconnected => exact .snkDisconnected h inp
  | snkDisconnectedDebounce => exact .snkDisconnectedDebounce h inp
  | snkHardResetRecover => exact .snkHardResetRecover h inp
  | snkDiscovery => exact .snkDiscovery h inp
  | snkRequested => exact .snkRequested h inp
  | snkTransition => exact .armOnEntry h _ _
  | snkReady => exact .snkReady h (hR htask)
  | snkSwapInit => exact .sendOnEntry h inp _ _
  | snkSwapSnkDisable => exact .setState (.pdSetInputCurrentLimit h 0 0) _
  | snkSwapSrcDisable => exact .armOnEntry h _ _
  | snkSwapStandby => exact .snkSwapStandby h inp
  | snkSwapComplete => exact .snkSwapComplete h
  | srcDisconnected => exact .srcDisconnected h inp
  | srcDisconnectedDebounce => exact .srcDisconnectedDebounce h inp
  | srcHardResetRecover => exact .srcHardResetRecover h inp
  | srcStartup => exact .srcStartup h inp
  | srcDiscovery => exact .srcDiscovery h b inp
  | srcNegociate => exact .armOnEntry h _ _
  | srcAccepted => exact .armOnEntry h _ _
  | srcPowered => exact .srcPowered h inp
  | srcTransition => exact .srcTransition h
  | srcReady => exact .srcReady h b
  | srcGetSinkCap => exact .armOnEntry h _ _
  | drSwap => exact .sendOnEntry h inp _ _
  | srcSwapInit => exact .sendOnEntry h inp _ _
  | srcSwapSnkDisable => exact .armOnEntry h _ _
  | srcSwapSrcDisable => exact .srcSwapSrcDisable h inp
  | srcSwapStandby => exact .srcSwapStandby h inp
  | softReset => exact .softReset h inp
  | hardResetSend => exact .hardResetSend h inp
  | hardResetExecute => exact .hardResetExecute h inp

theorem checkSourceDetach (h : Effects R p q) (inp : Input) :
    Effects R p (q.checkSourceDetach inp) := by
  unfold Port.checkSourceDetach
  split
  · simp only [pdTrySrcEnable, Bool.false_eq_true, if_false]
    generalize hr : (if (q.tcpmGetCc inp.ccTail).pd.polarity = true then
        (q.tcpmGetCc inp.ccTail).modifySt fun st => { st with cc1 := st.cc2 }
      else q.tcpmGetCc inp.ccTail) = r
    have hr' : Effects R p r := by
      rw [← hr]
      split
      · exact .assign h (by rfl)
      · exact .assign h (by rfl)
    split_ifs
    · exact .setState (.call hr' rfl) _
    · exact hr'
  · exact h

theorem finish (h : Effects R p q) (thisState : PdState) (inp : Input) :
    Effects R p (q.finish thisState inp) := by
  have hlast : Effects R p ((q.setLast thisState).checkTimeout (inp.time .tail)) := by
    unfold Port.checkTimeout
    split_ifs
    · exact .setState (.assign h (by rfl)) _
    · exact .assign h (by rfl)
  unfold Port.finish
  simp only [Port.checkSinkDetach_eq]
  split_ifs
  · exact hlast
  · exact hlast.checkSourceDetach inp

/-- The iteration up to its message. -/
theorem beforeMessage (h : Effects R p q) (inp : Input) : Effects R p (q.beforeMessage inp) := by
  unfold Port.beforeMessage
  rw [Port.checkBoardAndEvents_eq]
  refine .pdVdmSendStateMachine (.assign h ?_) _
  unfold Port.applyReset
  split <;> rfl

theorem applySuspend (h : Effects R p q) : Effects R p q.applySuspend := by
  unfold Port.applySuspend
  split_ifs
  · exact .setState h _
  · exact h

end Effects

namespace Port

/-- `setup` neither transmits nor receives. -/
theorem setup_plain : ∀ c ∈ setup.log, c.plain = true := by
  decide

variable {R : Prop} {Inv : Port → Prop}

/-- The events that no negotiation is part of. -/
theorem call_preserves (heffect : ∀ p q, Effect R p q → Inv p → Inv q)
    (halert : ∀ p irq, Inv p → Inv ((p.record (.alert irq)).completeTransmissions irq))
    (b : Board) (p : Port) (e : Event) (he : e.negotiates = false) (hp : Inv p) :
    Inv (p.step b e) := by
  have hchain : ∀ {p q : Port}, Effects R p q → Inv p → Inv q :=
    fun h hp => Machine.chain_preserves heffect h hp
  cases e with
  | iterate | setNewPowerRequest | button => cases he
  | alert irq now =>
      have hreported := halert p irq hp
      change Inv (p.tcpcAlert irq now)
      unfold tcpcAlert
      simp only
      generalize hq : (if irq.hardReset = true then
          (((p.record (.alert irq)).completeTransmissions irq).modifyChip
            Fusb302.pdReset).pdExecuteHardReset now
        else (p.record (.alert irq)).completeTransmissions irq) = q
      have hreset : Inv q := by
        rw [← hq]
        split
        · exact hchain (.pdExecuteHardReset (.assign .refl (by rfl)) now) hreported
        · exact hreported
      split
      · exact hchain (.assign .refl (by rfl)) hreset
      · exact hreset
  | softReset =>
      change Inv p.pdSoftReset
      unfold pdSoftReset
      split_ifs
      · exact hchain (.setState .refl _) hp
      · exact hp
  | requestPowerSwap =>
      change Inv p.pdRequestPowerSwap
      unfold pdRequestPowerSwap
      split_ifs
      · exact hchain (.setState .refl _) hp
      · exact hchain (.setState .refl _) hp
      · exact hp
  | requestDataSwap =>
      change Inv p.pdRequestDataSwap
      unfold pdRequestDataSwap
      split_ifs
      · exact hchain (.setState .refl _) hp
      · exact hp
  | sendVdm vid cmd data => exact hchain (.pdSendVdm .refl vid cmd data) hp
  | setDualRole state => exact hchain (.assign .refl (by rfl)) hp
  | pingEnable enable => exact hchain (.assign .refl (by rfl)) hp
  | vbusLow => exact hchain (.assign .refl (by rfl)) hp
  | setMaxVoltage mv => exact hchain (.assign .refl (by rfl)) hp

/-- A property that is kept by every effect, by the record of a message and by
the reports of an alert is kept by every event. -/
theorem step_preserves (heffect : ∀ p q, Effect True p q → Inv p → Inv q)
    (hreceived : ∀ p m, Inv p → Inv (p.record (.received m)))
    (halert : ∀ p irq, Inv p → Inv ((p.record (.alert irq)).completeTransmissions irq))
    (b : Board) (p : Port) (e : Event) (hp : Inv p) : Inv (p.step b e) := by
  have hchain : ∀ {p q : Port}, Effects True p q → Inv p → Inv q :=
    fun h hp => Machine.chain_preserves heffect h hp
  have hassign : ∀ q : Port, q.pd.msgId = p.pd.msgId ∧ q.pd.txStatus = p.pd.txStatus ∧
      q.log = p.log → Inv q :=
    fun q hq => hchain (.negotiate .refl trivial hq) hp
  cases e with
  | iterate inp =>
      have hbefore : Inv (p.beforeMessage inp) := hchain (.beforeMessage .refl inp) hp
      have hreceive : Inv ((p.beforeMessage inp).receive b inp) := by
        unfold receive
        split
        · exact hbefore
        · rename_i m hm
          exact hchain (.handleRequest .refl b _ m fun _ => trivial) (hreceived _ m hbefore)
      refine hchain ?_ hreceive
      exact .finish (.runState (.applySuspend .refl) b inp fun _ => trivial) _ inp
  | setNewPowerRequest => exact hassign _ ⟨rfl, rfl, rfl⟩
  | button => exact hassign _ ⟨rfl, rfl, rfl⟩
  | _ => exact call_preserves heffect halert b p _ rfl hp

theorem after_preserves (heffect : ∀ p q, Effect True p q → Inv p → Inv q)
    (hreceived : ∀ p m, Inv p → Inv (p.record (.received m)))
    (halert : ∀ p irq, Inv p → Inv ((p.record (.alert irq)).completeTransmissions irq))
    (hsetup : Inv setup) (b : Board) (es : List Event) : Inv (after b es) :=
  Machine.run_preserves (step_preserves heffect hreceived halert b) hsetup es

end Port

end UsbPd
