import UsbPd.Control.Rules

/-!
# No timer outlives its state

Every state change stops the timer, and the two assignments that bypass
`set_state`, the reset argument and the retry timer after Wait, are followed by
a state that arms the timer again. A running timer is therefore always one that
the current state arms, and none leads into a parked state.
-/

namespace UsbPd

namespace Control

/-- The states in which the machine does nothing. -/
def parkedStates : List PdState := [.disabled, .suspended]

/-- What holds between two events: the timer runs only in the state that ran last,
and leads where that state arms it to. -/
structure InState (v : Control) : Prop where
  timer : v.task = v.last → v.armed = true → v.timeoutState ∈ timers v.role v.task
  unarmed : v.task ≠ v.last → v.armed = false
  running : v.task ∉ parkedStates

/-- What holds when the switch is entered: only a soft reset or a request that is
told to wait can find a timer that was armed before the state was entered. -/
structure AtSwitch (v : Control) : Prop where
  timer : v.task = v.last → v.armed = true → v.timeoutState ∈ timers v.role v.task
  leftOver : v.task ≠ v.last → v.armed = true → v.task = .softReset ∨ v.task = .snkRequested
  running : v.task ∉ parkedStates

/-- The machines that enter the state `task` without a timer, their transmissions
reported as successful. -/
def enteringMachines (task : PdState) : List Control :=
  [PowerRole.sink, .source].flatMap fun role =>
    [{ Control.start with task := task, role := role, fewResets := true },
      { Control.start with task := task, role := role, fewResets := false }]

/-- The table lists no timer that the code does not arm: the switch arms it on entry,
except for the retry timer that Wait arms. -/
theorem armed_of_timers : ∀ r t, ∀ s ∈ timers r t,
    (t = .snkRequested ∧ s = .snkReady) ∨
      ∃ v ∈ enteringMachines t, ∃ w ∈ v.runState,
        w.role = r ∧ w.task = t ∧ w.armed = true ∧ w.timeoutState = s := by
  intro r t
  cases r <;> cases t <;> decide

theorem timers_running : ∀ r t, ∀ s ∈ timers r t, s ∉ parkedStates := by
  intro r t
  cases r <;> cases t <;> decide

theorem messageStates_running : ∀ s ∈ messageStates, s ∉ parkedStates := by decide

/-- After a message the timer is stopped, as it was, or the retry timer. -/
theorem Reaction.timer {v w : Control} {kind : MsgKind} (h : Reaction v kind w) :
    w = v ∨ w.armed = false ∨ (w.task = .snkRequested ∧ w.timeoutState = .snkReady) := by
  cases h with
  | ignored => exact .inl rfl
  | retryLater htask => exact .inr (.inr ⟨htask, rfl⟩)
  | _ => exact .inr (.inl (by simp [executeSoftReset]))

/-- After the switch the timer is stopped, as it was in a state that does not arm
it on entry, or armed by the state. -/
theorem Outcome.timer {v w : Control} (h : Outcome v w) :
    w.armed = false ∨
      (w.task = v.task ∧ w.role = v.role ∧ w.armed = v.armed ∧ w.timeoutState = v.timeoutState ∧
        (v.entering = true → v.waits = false)) ∨
      (w.task = v.task ∧ w.timeoutState ∈ timers w.role v.task) := by
  have hresetting : v.task = .hardResetSend → v.waits = false := fun htask => by
    simp [waits, waitingStates, htask]
  cases h with
  | stays hidle => exact .inr (.inl ⟨rfl, rfl, rfl, rfl, hidle⟩)
  | arms _ hs => exact .inr (.inr ⟨rfl, hs⟩)
  | requests htask => exact .inr (.inr ⟨rfl, by simp [timers, htask]⟩)
  | drivesVbus htask => exact .inr (.inr ⟨rfl, by simp [timers, htask]⟩)
  | cutsVbus htask => exact .inr (.inr ⟨rfl, by simp [timers, htask]⟩)
  | becomesSink htask => exact .inr (.inr ⟨rfl, by simp [timers, htask]⟩)
  | sendsReset htask hrole => exact .inr (.inr ⟨rfl, by simp [timers, htask, hrole]⟩)
  | sentReset htask => exact .inr (.inl ⟨rfl, rfl, rfl, rfl, fun _ => hresetting htask⟩)
  | failsReset htask => exact .inr (.inl ⟨rfl, rfl, rfl, rfl, fun _ => hresetting htask⟩)
  | executesReset =>
      left
      rw [executeHardReset_eq]
  | _ => exact .inl (by simp [attachSource, attachSink])

theorem moves_running : ∀ t, ∀ s ∈ moves t, s ∉ parkedStates := by
  intro t
  cases t <;> decide

theorem Outcome.running {v w : Control} (h : Outcome v w) (hv : v.task ∉ parkedStates) :
    w.task ∉ parkedStates := by
  cases h with
  | moves hs => simpa using moves_running _ _ hs
  | executesReset =>
      rcases executeHardReset_task (if v.last = .snkSwapStandby then v.setPull false else v) with
        htask | htask <;> rw [htask] <;> decide
  | stays | arms | requests | drivesVbus | cutsVbus | becomesSink | sentReset | failsReset
  | sendsReset => exact hv
  | _ => simp [parkedStates, attachSource, attachSink]

namespace AtSwitch

variable {v w : Control}

theorem applyReset (h : InState v) (reset : Bool) : AtSwitch (v.applyReset reset) := by
  cases reset with
  | false =>
      refine ⟨h.timer, fun hne harmed => ?_, h.running⟩
      change v.armed = true at harmed
      rw [h.unarmed hne] at harmed
      cases harmed
  | true =>
      refine ⟨fun hlast harmed => ?_, fun _ _ => .inl rfl, ?_⟩
      swap
      · change PdState.softReset ∉ parkedStates
        decide
      change PdState.softReset = v.last at hlast
      change v.armed = true at harmed
      have htask : v.task = v.last := by
        by_contra hne
        rw [h.unarmed hne] at harmed
        cases harmed
      have htimer := h.timer htask harmed
      rwa [htask, ← hlast] at htimer

theorem reaction (h : AtSwitch v) {kind : MsgKind} (hw : Reaction v kind w) : AtSwitch w := by
  rcases hw.timer with rfl | hstopped | ⟨htask, htimer⟩
  · exact h
  · refine ⟨fun _ harmed => ?_, fun _ harmed => ?_, ?_⟩
    · rw [hstopped] at harmed
      cases harmed
    · rw [hstopped] at harmed
      cases harmed
    · rcases hw.task with rfl | hmem
      · exact h.running
      · exact messageStates_running _ hmem
  · refine ⟨fun _ _ => ?_, fun _ _ => .inr htask, ?_⟩
    · simp [htask, htimer, timers]
    · simp [htask, parkedStates]

theorem receive (h : AtSwitch v) {kind : Option MsgKind} (hw : w ∈ v.receive kind) :
    AtSwitch w := by
  rcases v.receive_reaction hw with rfl | ⟨k, -, -, hreaction⟩
  · exact h
  · exact h.reaction hreaction

/-- The timer that the timeout check finds after the switch. -/
theorem ranSwitch (h : AtSwitch v) (hw : Outcome v w) (harmed : w.armed = true) :
    w.task = v.task ∧ w.timeoutState ∈ timers w.role w.task := by
  rcases hw.timer with hstopped | ⟨htask, hrole, harmed', htimer, hidle⟩ | ⟨htask, htimer⟩
  · rw [hstopped] at harmed
    cases harmed
  · have hlast : v.task = v.last := by
      by_contra hne
      have hwaits := hidle (by simpa [entering] using Ne.symm hne)
      rw [harmed'] at harmed
      rcases h.leftOver hne harmed with h' | h' <;>
        simp [waits, waitingStates, h'] at hwaits
    refine ⟨htask, ?_⟩
    rw [htask, hrole, htimer]
    exact h.timer hlast (harmed' ▸ harmed)
  · exact ⟨htask, by rwa [htask]⟩

theorem runSwitch (h : AtSwitch v) : Machine.Ensures v.runSwitch InState := by
  refine Machine.Ensures.flatMap v.runState_outcome fun w hw => ?_
  refine w.finish_ensures ?_ (fun harmed => ?_) ?_
  · refine ⟨fun _ harmed => (h.ranSwitch hw harmed).2, fun hne => ?_, hw.running h.running⟩
    by_contra harmed
    exact hne (h.ranSwitch hw (by simpa using harmed)).1
  · have htimer := (h.ranSwitch hw harmed).2
    refine ⟨by simp, by simp, ?_⟩
    simpa using timers_running _ _ _ htimer
  · intro u _ _ _ _
    exact ⟨by simp, by simp, by simp [parkedStates]⟩

end AtSwitch

theorem InState.setState {v : Control} {s : PdState} (hs : s ∉ parkedStates) :
    InState (v.setState s) :=
  ⟨by simp, by simp, by simpa using hs⟩

theorem InState.executeHardReset (v : Control) : InState v.executeHardReset := by
  rw [executeHardReset_eq]
  cases v.role <;> constructor <;> simp [parkedStates]

theorem inState_invariant (b : Board) : ControlInvariant b (fun _ _ => True) InState where
  start := ⟨by decide, by decide, by decide⟩
  iterate := fun p inp _ h w hw => ((AtSwitch.applyReset h inp.reset).receive hw).runSwitch
  complete := fun _ _ _ _ _ h => ⟨h.timer, h.unarmed, h.running⟩
  hardReset := fun _ _ _ _ _ _ _ => .executeHardReset _
  softReset := by
    intro p _ h
    unfold softResetCall
    split
    · exact .setState (by decide)
    · exact h
  powerSwap := by
    intro p _ h
    unfold requestPowerSwap
    split_ifs
    · exact .setState (by decide)
    · exact .setState (by decide)
    · exact h
  dataSwap := by
    intro p _ h
    unfold requestDataSwap
    split
    · exact .setState (by decide)
    · exact h

end Control

namespace Port

/-- A running timer leads to a state that the current state arms it to. -/
def TimerInState (p : Port) : Prop :=
  p.pd.timeout ≠ 0 → p.pd.timeoutState ∈ Control.timers p.pd.powerRole p.pd.taskState

theorem timerInState_of_armed {p : Port}
    (h : p.control.armed = true → p.control.timeoutState ∈ Control.timers p.control.role
      p.control.task) : p.TimerInState :=
  fun htimeout => h (by simpa [control] using htimeout)

theorem atSwitch_beforeSwitch (b : Board) (es : List Event) (inp : Input) :
    Control.AtSwitch ((after b es).beforeSwitch b inp).control := by
  have hin : Control.InState (after b es).control := (Control.inState_invariant b).always es
  have hreceive := ((after b es).beforeMessage inp).control_receive_mem b inp
  rw [control_beforeMessage] at hreceive
  rw [beforeSwitch_eq (awake_after b es)]
  exact (Control.AtSwitch.applyReset hin inp.reset).receive hreceive

/-- No deadline outlives its state and the port is never parked: between two events
a running timer leads to a state that the current state arms it to, and the timer
that the tail of an iteration finds was armed by the state that the switch ran. -/
theorem timerInState_after (b : Board) (es : List Event) :
    (after b es).TimerInState ∧
      (after b es).pd.taskState ≠ .disabled ∧ (after b es).pd.taskState ≠ .suspended ∧
      ∀ inp : Input,
        let q := (after b es).beforeSwitch b inp
        let r := q.runState b inp
        r.TimerInState ∧ (r.pd.timeout ≠ 0 → r.pd.taskState = q.pd.taskState) := by
  have hin : Control.InState (after b es).control := (Control.inState_invariant b).always es
  refine ⟨timerInState_of_armed fun harmed => ?_, fun hdis => ?_, fun hsus => ?_, fun inp => ?_⟩
  · refine hin.timer ?_ harmed
    by_contra hne
    rw [hin.unarmed hne] at harmed
    cases harmed
  · exact hin.running (by simp [control, hdis, Control.parkedStates])
  · exact hin.running (by simp [control, hsus, Control.parkedStates])
  · have hswitch := atSwitch_beforeSwitch b es inp
    have hran := Control.runState_outcome _ _
      (control_runState_mem b ((after b es).beforeSwitch b inp) inp)
    refine ⟨timerInState_of_armed fun harmed => (hswitch.ranSwitch hran harmed).2, fun htimer => ?_⟩
    exact (hswitch.ranSwitch hran (by simpa [control] using htimer)).1

end Port

end UsbPd
