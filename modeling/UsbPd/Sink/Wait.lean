import UsbPd.Control.Role
import UsbPd.Effects.Messages
import UsbPd.Sink.PsRdy

/-!
# Wait

A Wait in `PD_STATE_SNK_REQUESTED` restarts the timer without leaving the
state. If the switch has not run in that state yet, which is the case after a
Request from `PD_STATE_SNK_READY`, the entry to the state comes after the Wait
and arms the timer for the hard reset again.
-/

namespace UsbPd

namespace Port

/-- The port asks again `PD_T_SINK_REQUEST` after the time `now`. -/
structure Postponed (p : Port) (now : Nat) : Prop where
  task : p.pd.taskState = .snkRequested
  timeout : p.pd.timeout = now + pdTSinkRequest
  timeoutState : p.pd.timeoutState = .snkReady
  newPowerRequest : p.pd.newPowerRequest = true
  prevRequestMv : p.pd.prevRequestMv = 0

/-- The tail of the iteration finds the timer expired. -/
def timesOut (b : Board) (p : Port) (inp : Input) : Bool :=
  let q := (p.beforeSwitch b inp).runState b inp
  q.pd.timeout ≠ 0 ∧ q.pd.timeout ≤ inp.time .tail

/-- The message is a Wait to a Request under a contract, and no timeout fires in
the iteration. -/
def waitsInContract (b : Board) (p : Port) (inp : Input) (m : PdMsg) : Bool :=
  m.isCtrl .wait && (p.dispatching inp m).takesWait && !p.timesOut b inp

/-- A Wait postpones the Request. -/
def HonoursWait (b : Board) (p : Port) (e : Event) : Prop :=
  ∀ r ∈ e.received, p.waitsInContract b r.1 r.2 = true →
    (p.step b e).Postponed (r.1.time .message)

/-- A Wait finds `PD_STATE_SNK_REQUESTED` as the state that ran last. -/
def WaitsAfterEntry (b : Board) (p : Port) (e : Event) : Prop :=
  ∀ r ∈ e.received, p.waitsInContract b r.1 r.2 = true → p.pd.lastState = .snkRequested

/-- The port after a Wait under a contract. -/
def postpone (p : Port) (now : Nat) : Port :=
  (p.modifyPd fun pd => { pd with newPowerRequest := true, prevRequestMv := 0 }).setStateTimeout
    (now + pdTSinkRequest) .snkReady

instance decidablePostponed (p : Port) (now : Nat) : Decidable (p.Postponed now) :=
  decidable_of_iff (p.pd.taskState = .snkRequested ∧ p.pd.timeout = now + pdTSinkRequest ∧
      p.pd.timeoutState = .snkReady ∧ p.pd.newPowerRequest = true ∧ p.pd.prevRequestMv = 0)
    ⟨fun ⟨h₁, h₂, h₃, h₄, h₅⟩ => ⟨h₁, h₂, h₃, h₄, h₅⟩,
      fun ⟨h₁, h₂, h₃, h₄, h₅⟩ => ⟨h₁, h₂, h₃, h₄, h₅⟩⟩

instance decidableHonoursWait (b : Board) (p : Port) (e : Event) :
    Decidable (p.HonoursWait b e) :=
  inferInstanceAs (Decidable (∀ r ∈ e.received, p.waitsInContract b r.1 r.2 = true → _))

theorem handleRequest_wait_takes (b : Board) {p : Port} (now : Nat) {m : PdMsg}
    (hm : m.isCtrl .wait = true) (htakes : p.takesWait = true) :
    p.handleRequest b now m = p.postpone now := by
  simp only [PdMsg.isCtrl, decide_eq_true_eq] at hm
  simp only [takesWait, decide_eq_true_eq] at htakes
  obtain ⟨htask, hcontract⟩ := htakes
  have hconn : p.pdIsConnected = true := by
    unfold pdIsConnected dualRoleIfElse
    cases p.pd.powerRole <;> simp [htask]
  simp [handleRequest, hconn, hm.1, handleCtrlRequest, hm.2, handleRejectWait, htask, hcontract,
    postpone]

/-- The switch after a Wait keeps the timer unless it enters the state. -/
theorem postponed_snkRequested (p : Port) (inp : Input) (now : Nat)
    (htask : p.pd.taskState = .snkRequested) :
    (((p.postpone now).snkRequested inp).setLast .snkRequested).Postponed now ↔
      p.pd.lastState = .snkRequested := by
  have hentering : (p.postpone now).entering = decide (p.pd.lastState ≠ .snkRequested) := by
    simp [entering, postpone, htask]
  unfold snkRequested
  rw [hentering]
  by_cases hlast : p.pd.lastState = .snkRequested
  · refine iff_of_true ?_ hlast
    simp only [hlast, ne_eq, not_true, decide_false, Bool.false_eq_true, if_false]
    exact ⟨htask, rfl, rfl, rfl, rfl⟩
  · refine iff_of_false (fun h => ?_) hlast
    have htimer := h.timeoutState
    simp [hlast] at htimer

/-- The tail leaves a sink alone when no timeout fires. -/
theorem finish_of_sink {p : Port} {inp : Input} (thisState : PdState)
    (hrole : p.pd.powerRole = .sink)
    (htime : ¬ (p.pd.timeout ≠ 0 ∧ p.pd.timeout ≤ inp.time .tail)) :
    p.finish thisState inp = p.setLast thisState := by
  have htimeout : (p.setLast thisState).checkTimeout (inp.time .tail) = p.setLast thisState :=
    if_neg htime
  have hdetach : (p.setLast thisState).checkSourceDetach inp = p.setLast thisState :=
    if_neg (by simp [hrole])
  unfold finish
  simp only [htimeout, hdetach, checkSinkDetach_eq, ite_self]

theorem Shaped.dispatching {p : Port} (h : p.Shaped) (inp : Input) (m : PdMsg) :
    (p.dispatching inp m).Shaped := by
  have hcontrol := p.control_dispatching inp m
  constructor
  · have hsuspending := congrArg Control.suspending hcontrol
    rw [Control.applyReset_suspending] at hsuspending
    exact hsuspending.trans h.awake
  · rw [hcontrol]
    exact h.within.applyReset inp.reset

/-- The iteration that receives a Wait under a contract. -/
theorem postponed_iterate (b : Board) {p : Port} (h : p.Shaped) {inp : Input} {m : PdMsg}
    (hmessage : inp.message = some m) (hwait : p.waitsInContract b inp m = true) :
    (p.pdRunStateMachine b inp).Postponed (inp.time .message) ↔ p.pd.lastState = .snkRequested := by
  simp only [waitsInContract, Bool.and_eq_true, Bool.not_eq_true'] at hwait
  obtain ⟨⟨hm, htakes⟩, htime⟩ := hwait
  have hlast : (p.dispatching inp m).pd.lastState = p.pd.lastState := by
    have := congrArg Control.last (p.control_dispatching inp m)
    rwa [Control.applyReset_last] at this
  have hshaped := h.dispatching inp m
  have hreceive : (p.beforeMessage inp).receive b inp =
      (p.dispatching inp m).postpone (inp.time .message) := by
    unfold receive
    rw [hmessage]
    exact handleRequest_wait_takes b (inp.time .message) hm htakes
  generalize p.dispatching inp m = q at *
  have htask : q.pd.taskState = .snkRequested := by
    simp only [takesWait, decide_eq_true_eq] at htakes
    exact htakes.1
  have hrole : q.pd.powerRole = .sink := hshaped.sink (by simp [htask, Control.sinkStates])
  have hbefore : p.beforeSwitch b inp = q.postpone (inp.time .message) := by
    rw [beforeSwitch, hreceive]
    exact if_neg (by simp [postpone, hshaped.awake])
  have htask' : (q.postpone (inp.time .message)).pd.taskState = .snkRequested := htask
  have hswitch : (p.beforeSwitch b inp).runState b inp =
      (q.postpone (inp.time .message)).snkRequested inp := by
    rw [hbefore, runState, htask']
  have hrole' : ((q.postpone (inp.time .message)).snkRequested inp).pd.powerRole = .sink := by
    unfold snkRequested
    split <;> exact hrole
  rw [timesOut, hswitch] at htime
  rw [pdRunStateMachine, hswitch, hbefore, finish_of_sink _ hrole' (by simpa using htime), htask',
    ← hlast]
  exact q.postponed_snkRequested inp _ htask

/-- In every run, the Waits postpone the Requests exactly when they find the
state already entered. -/
theorem honoursWait_iff (b : Board) (es : List Event) :
    AllSteps b (fun p e => p.HonoursWait b e) es ↔
      AllSteps b (fun p e => p.WaitsAfterEntry b e) es := by
  refine allSteps_congr (fun p e hshaped => ?_) es
  refine forall₂_congr fun r hr => imp_congr_right fun hwait => ?_
  obtain ⟨rfl, hmessage⟩ := Event.mem_received.1 hr
  exact postponed_iterate b hshaped hmessage hwait

/-- A source that answers two Requests in a row with Wait: the second Request is
sent from `PD_STATE_SNK_READY`, and the port will reset. -/
theorem not_honoursWait_again :
    ¬ ∀ es : List Event, AllSteps .shipped (fun p e => p.HonoursWait .shipped e) es := by
  intro h
  have hhonours := h (readyAsSink ++
    [iterateAt 230000 rpOnCc1 (some (dataMsg .sourceCap [fiveVolts] (by decide))),
      iterateAt 240000 rpOnCc1 (some (ctrlMsg .wait)),
      iterateAt 340000 rpOnCc1 none,
      iterateAt 341000 rpOnCc1 none,
      iterateAt 342000 rpOnCc1 (some (ctrlMsg .wait))])
  revert hhonours
  decide +kernel

end Port

end UsbPd
