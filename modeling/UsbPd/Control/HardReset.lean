import UsbPd.Control.Role

/-!
# Hard resets are carried through

Once hard reset signalling went out, the port stays in the two sending states
until the reset is executed or the partner is gone, provided that no message or
call that ignores the current state takes it elsewhere.
-/

namespace UsbPd

namespace Port

/-- Hard reset signalling went out and the reset is still to be executed. -/
def hardResetPending (p : Port) : Bool := (History.ofLog p.log).hardResetPending

/-- The event takes the port away from a pending hard reset. -/
def abandonsReset (b : Board) (p : Port) : Event → Bool
  | .iterate inp => p.hardResetPending && (inp.reset || inp.message.any (p.interruptsReset b))
  | .softReset => p.hardResetPending
  | _ => false

/-- What `pd_execute_hard_reset` leaves. -/
structure ResetExecuted (p : Port) : Prop where
  msgId : p.pd.msgId = 0
  sink : p.pd.powerRole = .sink → p.pd.taskState = .snkHardResetRecover
  source : p.pd.powerRole = .source →
    p.pd.taskState = .srcHardResetRecover ∧ (History.ofLog p.log).vbus = false

theorem pdExecuteHardReset_msgId (p : Port) (now : Nat) :
    (p.pdExecuteHardReset now).pd.msgId = 0 := by
  unfold pdExecuteHardReset
  simp only
  split_ifs <;> simp

theorem resetExecuted_pdExecuteHardReset (p : Port) (now : Nat) :
    (p.pdExecuteHardReset now).ResetExecuted := by
  have hcontrol := p.control_pdExecuteHardReset now
  rw [Control.executeHardReset_eq] at hcontrol
  have htask := congrArg Control.task hcontrol
  have hrole := congrArg Control.role hcontrol
  have hvbus := congrArg (fun v => v.history.vbus) hcontrol
  simp only [control_task, control_role] at htask hrole hvbus
  refine ⟨p.pdExecuteHardReset_msgId now, fun hsink => ?_, fun hsource => ⟨?_, ?_⟩⟩
  · rw [htask, ← hrole, hsink]
    rfl
  · rw [htask, ← hrole, hsource]
    rfl
  · have : (p.pdExecuteHardReset now).control.history.vbus = false := by
      rw [hvbus, ← hrole, hsource]
      simp
    exact this

end Port

namespace Control

/-- A pending hard reset is where it will be executed. -/
structure ResetCarried (v : Control) : Prop where
  pending : v.history.hardResetPending = true → v.task = .hardResetSend ∨ v.task = .hardResetExecute
  timer : v.task = .hardResetSend → v.armed = true → v.timeoutState = .hardResetExecute
  unarmed : v.task = .hardResetExecute → v.armed = false

namespace ResetCarried

variable {v w : Control}

theorem start : ResetCarried Control.start := by
  constructor <;> simp [Control.start]

/-- A change of state while no hard reset is pending. -/
theorem setState (hpending : v.history.hardResetPending = false) (s : PdState) :
    ResetCarried (v.setState s) := by
  constructor <;> simp [hpending]

theorem executeHardReset : ResetCarried v.executeHardReset := by
  rw [executeHardReset_eq]
  constructor
  · simp
  · simp
  · simp

theorem executeSoftReset (hpending : v.history.hardResetPending = false) :
    ResetCarried v.executeSoftReset :=
  setState hpending _

theorem applyReset (h : ResetCarried v) {reset : Bool}
    (hreset : reset = true → v.history.hardResetPending = false) :
    ResetCarried (v.applyReset reset) := by
  cases reset with
  | false => exact h
  | true => constructor <;> simp [Control.applyReset, hreset]

/-- A message while no hard reset is pending. -/
theorem reaction_idle (h : ResetCarried v) (hpending : v.history.hardResetPending = false)
    {kind : MsgKind} (hw : Reaction v kind w) : ResetCarried w := by
  cases hw with
  | ignored => exact h
  | granted => exact setState (v := (v.note .contractAgreed).setExplicit true) hpending _
  | sourceOn => exact setState (v := v.setRole .sink) hpending _
  | retryLater htask => constructor <;> simp [hpending, htask]
  | srcSwapAccepted =>
      exact setState (v := (v.note .powerSwapAccepted).setExplicit false) hpending _
  | snkSwapAccepted =>
      exact setState (v := (v.note .powerSwapAccepted).setExplicit false) hpending _
  | requestAccepted => exact setState (v := (v.note .contractAgreed).setExplicit true) hpending _
  | softAccepted => exact executeSoftReset hpending
  | softReset => exact executeSoftReset hpending
  | _ => exact setState hpending _

/-- A message during a pending hard reset is ignored, unless it is one of the
three that ignore the state. -/
theorem reaction_pending (htask : v.task = .hardResetSend ∨ v.task = .hardResetExecute)
    {kind : MsgKind} (hw : Reaction v kind w) (hsoft : kind ≠ .ctrl (some .softReset))
    (hpsrdy : kind = .ctrl (some .psRdy) → v.role = .source)
    (hrequest : ∀ a, kind = .data (some .request) a →
      v.role = .source ∧ a = true ∧ v.txOk = false) : w = v := by
  have hready : v.readyReturnState = .snkReady ∨ v.readyReturnState = .srcReady := by
    unfold readyReturnState roleIfElse
    cases v.role <;> simp
  cases hw with
  | ignored => rfl
  | granted hkind _ htx =>
      obtain ⟨-, -, htx'⟩ := hrequest _ hkind
      rw [htx] at htx'
      cases htx'
  | denied hkind hdeny =>
      obtain ⟨hrole, hacc, -⟩ := hrequest _ hkind
      exact absurd ⟨hrole, hacc⟩ hdeny
  | softReset hkind => exact absurd hkind hsoft
  | powered hkind hrole =>
      rw [hpsrdy hkind] at hrole
      cases hrole
  | tested htested =>
      rcases hready with hready | hready <;> rcases htask with htask | htask <;>
        rw [hready, htask] at htested <;> cases htested
  | _ => rcases htask with htask | htask <;> simp_all

theorem not_pending (h : ResetCarried v) {s : PdState} (htask : v.task = s)
    (hs : s ≠ .hardResetSend ∧ s ≠ .hardResetExecute) : v.history.hardResetPending = false := by
  cases hp : v.history.hardResetPending with
  | false => rfl
  | true =>
      rcases h.pending hp with h' | h'
      · exact absurd (htask.symm.trans h') hs.1
      · exact absurd (htask.symm.trans h') hs.2

theorem timers_sending : ∀ r s, ∀ t ∈ timers r s,
    (s = .hardResetSend → t = .hardResetExecute) ∧ s ≠ .hardResetExecute := by
  intro r s
  cases r <;> cases s <;> decide

theorem moves_sending : ∀ s, ∀ t ∈ moves s, s ≠ .hardResetSend ∧ s ≠ .hardResetExecute := by
  intro s
  cases s <;> decide

theorem outcome (h : ResetCarried v) (hw : Outcome v w) : ResetCarried w := by
  cases hw with
  | stays => exact h
  | arms _ hs =>
      obtain ⟨hsend, hexecute⟩ := timers_sending _ _ _ hs
      exact ⟨h.pending, fun htask _ => hsend htask, fun htask => absurd htask hexecute⟩
  | moves hs => exact setState (h.not_pending rfl (moves_sending _ _ hs)) _
  | resumes htask =>
      exact setState (v := v.clearSuspending) (h.not_pending htask (by decide)) _
  | seesSource htask => exact setState (v := v.setFew true) (h.not_pending htask (by decide)) _
  | togglesToSource htask =>
      have := setState (v := v.setRole .source) (h.not_pending htask (by decide)) .srcDisconnected
      exact ⟨this.pending, this.timer, this.unarmed⟩
  | attachesSource htask =>
      exact setState (v := v.note (.rxEnable true)) (h.not_pending htask (by decide)) _
  | requests htask =>
      have hp := h.not_pending htask (by decide)
      constructor <;> simp [hp, htask]
  | drivesVbus htask =>
      have hp := h.not_pending htask (by decide)
      constructor <;> simp [hp, htask]
  | becomesSource htask =>
      exact setState (v := v.setRole .source) (h.not_pending htask (by decide)) _
  | staysSink htask =>
      exact setState (v := (v.setPull false).note (.vbus false))
        (h.not_pending htask (by decide)) _
  | seesSink htask => exact setState (h.not_pending htask (by decide)) _
  | togglesToSink htask =>
      have := setState (v := v.setRole .sink) (h.not_pending htask (by decide)) .snkDisconnected
      exact ⟨this.pending, this.timer, this.unarmed⟩
  | attachesSink htask =>
      exact setState (v := ((v.note (.vbus true)).note (.rxEnable true)).setFew true)
        (h.not_pending htask (by decide)) _
  | recovers htask =>
      exact setState (v := v.note (.vbus true)) (h.not_pending htask (by decide)) _
  | sendsCaps htask =>
      have := setState (h.not_pending htask (by decide)) .srcNegociate
      exact ⟨this.pending, this.timer, this.unarmed⟩
  | cutsVbus htask =>
      have hp := h.not_pending htask (by decide)
      constructor <;> simp [hp, htask]
  | becomesSink htask =>
      have hp := h.not_pending htask (by decide)
      constructor <;> simp [hp, htask]
  | staysSource htask => exact setState (h.not_pending htask (by decide)) _
  | sentReset htask => exact ⟨h.pending, h.timer, h.unarmed⟩
  | failsReset htask => exact ⟨fun _ => .inl htask, h.timer, h.unarmed⟩
  | sendsReset htask =>
      exact ⟨fun _ => .inl htask, fun _ _ => rfl, fun hexecute => by simp [htask] at hexecute⟩
  | sendsResetAtOnce => constructor <;> simp
  | executesReset => exact executeHardReset

theorem finish (h : ResetCarried v) (thisState : PdState) :
    Machine.Ensures (v.finish thisState) ResetCarried := by
  refine v.finish_ensures ⟨h.pending, h.timer, h.unarmed⟩ (fun harmed => ?_) ?_
  · constructor
    · intro hp
      simp only [setState_hardResetPending] at hp
      change v.history.hardResetPending = true at hp
      rcases h.pending hp with htask | htask
      · exact .inr (by simpa using h.timer htask harmed)
      · rw [h.unarmed htask] at harmed
        cases harmed
    · simp
    · simp
  · intro w _ _ _ _
    exact setState (v := w.note .detach) rfl _

theorem runSwitch (h : ResetCarried v) : Machine.Ensures v.runSwitch ResetCarried :=
  Machine.Ensures.flatMap v.runState_outcome fun _ hw => (h.outcome hw).finish v.task

theorem softResetCall (h : ResetCarried v) (hpending : v.history.hardResetPending = false) :
    ResetCarried v.softResetCall := by
  unfold Control.softResetCall
  split
  · exact setState hpending _
  · exact h

theorem requestPowerSwap (h : ResetCarried v) : ResetCarried v.requestPowerSwap := by
  unfold Control.requestPowerSwap
  split_ifs with hsrc hsnk
  · exact setState (h.not_pending hsrc (by decide)) _
  · exact setState (h.not_pending hsnk (by decide)) _
  · exact h

theorem requestDataSwap (h : ResetCarried v) : ResetCarried v.requestDataSwap := by
  unfold Control.requestDataSwap
  split
  · rename_i hready
    refine setState (h.not_pending hready ?_) _
    unfold readyReturnState roleIfElse
    cases v.role <;> decide
  · exact h

end ResetCarried

section

variable {b : Board} {p : Port} {m : PdMsg} (h : p.interruptsReset b m = false)

include h

theorem not_softReset_of_quiet : m.kind b ≠ .ctrl (some .softReset) := by
  intro hkind
  simp [Port.interruptsReset, PdMsg.isCtrl_of_kind hkind] at h

theorem source_of_quiet (hkind : m.kind b = .ctrl (some .psRdy)) : p.control.role = .source := by
  cases hrole : p.pd.powerRole with
  | source => exact hrole
  | sink => simp [Port.interruptsReset, PdMsg.isCtrl_of_kind hkind, hrole] at h

theorem granted_of_quiet (a : Bool) (hkind : m.kind b = .data (some .request) a) :
    p.control.role = .source ∧ a = true ∧ p.control.txOk = false := by
  simp only [Port.interruptsReset, Port.grants, PdMsg.isData_of_kind hkind,
    PdMsg.acceptable_of_kind hkind, Bool.or_eq_false_iff, Bool.true_and, Bool.not_eq_false',
    Bool.and_eq_true, beq_iff_eq] at h
  obtain ⟨⟨hrole, ha⟩, htx⟩ := h.2
  refine ⟨hrole, ha, ?_⟩
  change (p.pd.txStatus == .success) = false
  simpa using htx

end

theorem resetCarried_invariant (b : Board) :
    ControlInvariant b (fun p e => p.abandonsReset b e = false) ResetCarried where
  start := .start
  iterate := by
    intro p inp hC h w hw
    simp only [Port.abandonsReset] at hC
    have hreset : inp.reset = true → p.control.history.hardResetPending = false := by
      intro hr
      change p.hardResetPending = false
      simpa [hr] using hC
    have hmid := h.applyReset hreset
    rcases receive_reaction _ hw with rfl | ⟨kind, hkind, -, hreaction⟩
    · exact hmid.runSwitch
    cases hp : p.hardResetPending with
    | false =>
        refine (hmid.reaction_idle ?_ hreaction).runSwitch
        cases inp.reset <;> exact hp
    | true =>
        simp only [hp, Bool.true_and, Bool.or_eq_false_iff] at hC
        obtain ⟨hr, hmessage⟩ := hC
        rw [hr] at hreaction
        obtain ⟨m, hm, rfl⟩ := Option.map_eq_some_iff.1 hkind
        rw [hm, Option.any_some] at hmessage
        have hw : w = p.control :=
          ResetCarried.reaction_pending (h.pending hp) hreaction (not_softReset_of_quiet hmessage)
            (source_of_quiet hmessage) (granted_of_quiet hmessage)
        rw [hw]
        exact h.runSwitch
  complete := fun p irq now ok _ h => ⟨h.pending, h.timer, h.unarmed⟩
  hardReset := fun p irq now ok _ _ _ => .executeHardReset
  softReset := fun p hC h => h.softResetCall hC
  powerSwap := fun p _ h => h.requestPowerSwap
  dataSwap := fun p _ h => h.requestDataSwap

end Control

/-- As long as no event takes the port away from it, a hard reset that was sent
is executed: the port stays in the two sending states until then. -/
theorem Port.hardReset_carried (b : Board) (es : List Event)
    (h : AllSteps b (fun p e => p.abandonsReset b e = false) es) :
    ((after b es).hardResetPending = true → (after b es).pd.taskState = .hardResetSend ∨
      (after b es).pd.taskState = .hardResetExecute) ∧
    ∀ now, ((after b es).pdExecuteHardReset now).ResetExecuted := by
  refine ⟨((Control.resetCarried_invariant b).after h).pending, fun now => ?_⟩
  exact (after b es).resetExecuted_pdExecuteHardReset now

/-- A sink that hears nothing after the attach and sends a hard reset. -/
def Port.sinkResets : List Event :=
  attachAsSink ++ [iterateAt 200000 rpOnCc1 none, iterateAt 800000 rpOnCc1 none,
    iterateAt 800000 rpOnCc1 none]

/-- The sink is about to execute its hard reset. -/
theorem Port.hardReset_carried_sinkResets :
    ((after .shipped sinkResets).hardResetPending = true →
      (after .shipped sinkResets).pd.taskState = .hardResetSend ∨
        (after .shipped sinkResets).pd.taskState = .hardResetExecute) ∧
    ∀ now, ((after .shipped sinkResets).pdExecuteHardReset now).ResetExecuted :=
  hardReset_carried .shipped _ (by decide +kernel)

/-- A PS_RDY before the execution puts the sink into `PD_STATE_SNK_READY`. -/
theorem Port.not_hardReset_carried_psRdy :
    ¬ ∀ es : List Event, (after .shipped es).hardResetPending = true →
      (after .shipped es).pd.taskState = .hardResetSend ∨
        (after .shipped es).pd.taskState = .hardResetExecute := by
  intro h
  have htask := h (sinkResets ++ [iterateAt 900000 rpOnCc1 (some (ctrlMsg .psRdy))])
    (by decide +kernel)
  revert htask
  decide +kernel

end UsbPd
