import UsbPd.Control.Rules

/-!
# Timers and states

A timer runs in the state that armed it: the READY states have none, and most
states are entered by a message or by the switch only, never by a timer. A reset
puts the port into `PD_STATE_SOFT_RESET` without stopping the timer.
-/

namespace UsbPd

namespace Control

/-- The states that no timer leads to. -/
def untimedStates : List PdState :=
  [.srcGetSinkCap, .snkRequested, .snkTransition, .snkSwapSnkDisable, .snkSwapSrcDisable,
    .snkSwapStandby, .snkDisconnectedDebounce, .srcDisconnectedDebounce, .snkSwapInit,
    .srcSwapInit, .drSwap]

/-- No timer runs in the READY states, none leads to a state of `untimedStates`, and
a timer belongs to the state that it runs in, except after a reset. -/
structure Rests (v : Control) : Prop where
  ready : v.task = .snkReady ∨ v.task = .srcReady → v.armed = false ∧ v.timeoutState = .disabled
  timeoutState : v.timeoutState ∉ untimedStates
  fits : v.timeoutState = .disabled ∨ v.task = .softReset ∨ ∃ r, v.timeoutState ∈ timers r v.task

theorem timers_rest : ∀ r s, ∀ t ∈ timers r s,
    (s ≠ .snkReady ∧ s ≠ .srcReady) ∧ t ∉ untimedStates := by
  intro r s
  cases r <;> cases s <;> decide

namespace Rests

variable {v w : Control}

theorem congr (h : Rests v) (htask : w.task = v.task) (harmed : w.armed = v.armed)
    (htimer : w.timeoutState = v.timeoutState) : Rests w where
  ready := by
    intro hw
    rw [htask] at hw
    rw [harmed, htimer]
    exact h.ready hw
  timeoutState := by
    rw [htimer]
    exact h.timeoutState
  fits := by
    rw [htask, htimer]
    exact h.fits

theorem setState (v : Control) (s : PdState) : Rests (v.setState s) where
  ready := fun _ => by simp
  timeoutState := by simp [untimedStates]
  fits := .inl (by simp)

theorem arm {r : PowerRole} {s : PdState} (hs : s ∈ timers r v.task) : Rests (v.arm s) where
  ready := fun h => absurd h (not_or.2 (timers_rest r v.task s hs).1)
  timeoutState := (timers_rest r v.task s hs).2
  fits := .inr (.inr ⟨r, hs⟩)

theorem start : Rests Control.start where
  ready := fun _ => by simp [Control.start]
  timeoutState := by simp [Control.start, untimedStates]
  fits := .inl rfl

theorem applyReset (h : Rests v) (reset : Bool) : Rests (v.applyReset reset) := by
  cases reset with
  | false => exact h
  | true =>
      have hleft :
          ¬ ((v.applyReset true).task = .snkReady ∨ (v.applyReset true).task = .srcReady) := by
        simp [Control.applyReset]
      exact ⟨fun hw => absurd hw hleft, h.timeoutState, .inr (.inl rfl)⟩

theorem executeHardReset : Rests v.executeHardReset := by
  rw [executeHardReset_eq]
  exact ⟨fun _ => ⟨rfl, rfl⟩, by simp [untimedStates], .inl rfl⟩

theorem reaction (h : Rests v) {kind : MsgKind} (hw : Reaction v kind w) : Rests w := by
  cases hw with
  | ignored => exact h
  | retryLater htask => exact .arm (r := .sink) (by simp [htask, timers])
  | _ => exact setState _ _

theorem outcome (h : Rests v) (hw : Outcome v w) : Rests w := by
  cases hw with
  | stays => exact h
  | arms _ hs => exact .arm hs
  | requests htask | drivesVbus htask | cutsVbus htask | becomesSink htask =>
      exact .arm (r := .sink) (by simp [htask, setFew, setPull, setRole, timers])
  | sendsReset htask => exact .arm (r := .source) (by simp [htask, setFew, setSent, timers])
  | togglesToSource | togglesToSink | sendsCaps => exact (setState _ _).congr rfl rfl rfl
  | sentReset | failsReset => exact h.congr rfl rfl rfl
  | executesReset => exact .executeHardReset
  | _ => exact setState _ _

theorem finish (h : Rests v) (thisState : PdState) : Machine.Ensures (v.finish thisState) Rests :=
  v.finish_ensures (h.congr rfl rfl rfl) (fun _ => setState _ _) fun _ _ _ _ _ => setState _ _

theorem softResetCall (h : Rests v) : Rests v.softResetCall := by
  unfold Control.softResetCall
  split
  · exact setState _ _
  · exact h

theorem requestPowerSwap (h : Rests v) : Rests v.requestPowerSwap := by
  unfold Control.requestPowerSwap
  split_ifs
  · exact setState _ _
  · exact setState _ _
  · exact h

theorem requestDataSwap (h : Rests v) : Rests v.requestDataSwap := by
  unfold Control.requestDataSwap
  split
  · exact setState _ _
  · exact h

/-- A message and the switch keep the timers at rest. -/
theorem receive (h : Rests v) {kind : Option MsgKind} (hw : w ∈ v.receive kind) : Rests w := by
  rcases receive_reaction _ hw with rfl | ⟨_, -, -, hreaction⟩
  · exact h
  · exact h.reaction hreaction

end Rests

theorem rests_invariant (b : Board) : ControlInvariant b (fun _ _ => True) Rests where
  start := .start
  iterate := by
    intro p inp _ h w hw
    exact Machine.Ensures.flatMap w.runState_outcome fun _ hu =>
      (((h.applyReset inp.reset).receive hw).outcome hu).finish w.task
  complete := fun _ _ _ _ _ h => h.congr rfl rfl rfl
  hardReset := fun _ _ _ _ _ _ _ => .executeHardReset
  softReset := fun _ _ h => h.softResetCall
  powerSwap := fun _ _ h => h.requestPowerSwap
  dataSwap := fun _ _ h => h.requestDataSwap

end Control

namespace Port

variable {p : Port}

theorem rests_beforeSwitch (h : p.control.Rests) (b : Board) (inp : Input) :
    (p.beforeSwitch b inp).control.Rests := by
  have hmem := (p.beforeMessage inp).control_receive_mem b inp
  rw [control_beforeMessage] at hmem
  unfold beforeSwitch
  rw [control_applySuspend]
  unfold Control.applySuspend
  split_ifs
  · exact .setState _ _
  · exact (h.applyReset inp.reset).receive hmem

theorem rests_runState (h : p.control.Rests) (b : Board) (inp : Input) :
    (p.runState b inp).control.Rests :=
  h.outcome (p.control.runState_outcome _ (p.control_runState_mem b inp))

/-- The tail leaves the state, lets the timer fire or detaches. -/
theorem task_finish (p : Port) (thisState : PdState) (inp : Input) :
    (p.finish thisState inp).pd.taskState = p.pd.taskState ∨
      (p.finish thisState inp).pd.taskState = p.pd.timeoutState ∨
      (p.finish thisState inp).pd.taskState = .srcDisconnected := by
  have hensures : Machine.Ensures (p.control.finish thisState) fun w =>
      w.task = p.pd.taskState ∨ w.task = p.pd.timeoutState ∨ w.task = .srcDisconnected := by
    refine p.control.finish_ensures (.inl rfl) (fun _ => .inr (.inl ?_))
      (fun _ _ _ _ _ => .inr (.inr (by simp)))
    rw [Control.setState_task]
    rfl
  exact hensures _ (p.control_finish_mem thisState inp)

end Port

end UsbPd
