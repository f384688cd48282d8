import UsbPd.Control.Stale
import UsbPd.Frame.Alike
import UsbPd.Link.Collision

/-!
# Reset by argument and reset by call

`pd_run_state_machine(port, 1)` assigns the state directly, `pd_soft_reset` asks
whether the port is connected and goes through `set_state`, which also stops the
timer. What the iteration does after the two is compared with the timer running
and with the timer stopped.
-/

namespace UsbPd

namespace Control

/-- A timer that does not run leads nowhere. -/
def Idle (v : Control) : Prop := v.armed = false → v.timeoutState = .disabled

namespace Idle

variable {v w : Control}

theorem setState (v : Control) (s : PdState) : Idle (v.setState s) := by
  simp [Idle]

theorem executeHardReset (v : Control) : Idle v.executeHardReset := by
  simp [Idle, executeHardReset_eq]

theorem applyReset (h : Idle v) (reset : Bool) : Idle (v.applyReset reset) := by
  cases reset <;> exact h

theorem reaction (h : Idle v) {kind : MsgKind} (hw : Reaction v kind w) : Idle w := by
  cases hw with
  | ignored => exact h
  | retryLater => simp [Idle]
  | _ => exact setState _ _

theorem receive (h : Idle v) {kind : Option MsgKind} (hw : w ∈ v.receive kind) : Idle w := by
  rcases v.receive_reaction hw with rfl | ⟨_, -, -, hreaction⟩
  · exact h
  · exact h.reaction hreaction

theorem outcome (h : Idle v) (hw : Outcome v w) : Idle w := by
  cases hw with
  | stays | sentReset | failsReset => exact h
  | arms | requests | drivesVbus | cutsVbus | becomesSink | sendsReset => simp [Idle]
  | togglesToSource | togglesToSink | sendsCaps => simp [Idle]
  | executesReset => exact executeHardReset _
  | _ => exact setState _ _

end Idle

theorem idle_invariant (b : Board) : ControlInvariant b (fun _ _ => True) Idle where
  start := fun _ => rfl
  iterate := by
    intro p inp _ h w hw
    refine Machine.Ensures.flatMap w.runState_outcome fun u hu => ?_
    have hran : Idle u := ((h.applyReset inp.reset).receive hw).outcome hu
    exact u.finish_ensures hran (fun _ => .setState _ _) fun _ _ _ _ _ => .setState _ _
  complete := fun _ _ _ _ _ h => h
  hardReset := fun _ _ _ _ _ _ _ => .executeHardReset _
  softReset := by
    intro p _ h
    unfold softResetCall
    split
    · exact .setState _ _
    · exact h
  powerSwap := by
    intro p _ h
    unfold requestPowerSwap
    split_ifs
    · exact .setState _ _
    · exact .setState _ _
    · exact h
  dataSwap := by
    intro p _ h
    unfold requestDataSwap
    split
    · exact .setState _ _
    · exact h

end Control

namespace Port

/-- The ports have the same data, the same chip and the same transmissions behind them. -/
structure SameEffect (p q : Port) : Prop where
  pd : p.pd = q.pd
  st : p.st = q.st
  chip : p.chip = q.chip
  sent : transmissions p.log = transmissions q.log

/-- The iteration with the reset argument and the iteration after the reset call
have the same effect. -/
def ResetsAlike (b : Board) (p : Port) (inp : Input) : Prop :=
  SameEffect (p.step b (.iterate { inp with reset := true }))
    ((p.step b .softReset).step b (.iterate { inp with reset := false }))

/-- A soft reset that has been sent waits for the Accept. -/
def awaitsAccept (p : Port) : Bool :=
  p.pd.taskState == .softReset && p.pd.lastState == .softReset && p.pd.timeout != 0

/-- The message ends the soft reset or changes its state. -/
def endsSoftReset (b : Board) (p : Port) (m : PdMsg) : Bool :=
  m.isCtrl .accept || p.interruptsReset b m

/-- The level of the pin that the partner is on. -/
def ccInUse (p : Port) : CcVoltage := if p.pd.polarity then p.st.cc2 else p.st.cc1

/-- A source whose CC line is open when the tail of the iteration measures it. -/
def losesSink (p : Port) (inp : Input) : Bool :=
  p.pd.powerRole == .source && (p.tcpmGetCc inp.ccTail).ccInUse == .open

/-- The port is connected, and no soft reset waits for the Accept unless the
iteration ends it. -/
def resetsTheSame (b : Board) (p : Port) (inp : Input) : Bool :=
  p.pdIsConnected &&
    (!p.awaitsAccept || inp.message.any (p.endsSoftReset b) || p.losesSink inp)

/-- The timer stopped, as `set_state` does it. -/
def stopTimer (p : Port) : Port := p.setStateTimeout 0 .disabled

section

variable (x : Port)

/-- The timer of a port that is stopped already. -/
theorem stopTimer_eq (htimeout : x.pd.timeout = 0) (hstate : x.pd.timeoutState = .disabled) :
    x.stopTimer = x := by
  obtain ⟨pd, st, chip, log⟩ := x
  obtain ⟨⟩ := pd
  simp only at htimeout hstate
  subst htimeout hstate
  rfl

end

/-- The states that a message leads a resetting port to. -/
def resetLeftStates : List PdState :=
  [.srcAccepted, .srcReady, .snkReady, .snkDiscovery, .srcDiscovery]

theorem connected_of_resetting {q : Port}
    (h : q.pd.taskState ∈ PdState.softReset :: resetLeftStates) : q.pdIsConnected = true := by
  unfold pdIsConnected dualRoleIfElse
  generalize q.pd.taskState = task at *
  cases q.pd.powerRole <;> revert h <;> cases task <;> decide

theorem connected_of_softReset {q : Port} (h : q.pd.taskState = .softReset) :
    q.pdIsConnected = true :=
  connected_of_resetting (by rw [h]; exact List.mem_cons_self ..)

/-- A part of an iteration that leaves a resetting port in its state and does not
look at the timer. -/
structure Passes (f : Port → Port) (x : Port) : Prop where
  stopped : f x.stopTimer = (f x).stopTimer
  task : (f x).pd.taskState = .softReset
  last : (f x).pd.lastState = x.pd.lastState
  timeout : (f x).pd.timeout = x.pd.timeout
  timeoutState : (f x).pd.timeoutState = x.pd.timeoutState
  role : (f x).pd.powerRole = x.pd.powerRole
  polarity : (f x).pd.polarity = x.pd.polarity
  txStatus : (f x).pd.txStatus = x.pd.txStatus
  st : (f x).st = x.st
  chip : x.chip.Alike (f x).chip

/-- A part of an iteration that changes the state of a resetting port, and with it
stops the timer. -/
structure Leaves (f : Port → Port) (x : Port) : Prop where
  stopped : f x.stopTimer = f x
  task : (f x).pd.taskState ∈ resetLeftStates

namespace Passes

variable {f g : Port → Port} {x : Port}

theorem comp (hf : Passes f x) (hg : Passes g (f x)) : Passes (fun q => g (f q)) x where
  stopped := by rw [hf.stopped, hg.stopped]
  task := hg.task
  last := hg.last.trans hf.last
  timeout := hg.timeout.trans hf.timeout
  timeoutState := hg.timeoutState.trans hf.timeoutState
  role := hg.role.trans hf.role
  polarity := hg.polarity.trans hf.polarity
  txStatus := hg.txStatus.trans hf.txStatus
  st := hg.st.trans hf.st
  chip := hf.chip.trans hg.chip

/-- What is done to the port, with the timer running or stopped, is all that matters. -/
theorem of_eq (hf : Passes f x) (hx : g x = f x) (hstopped : g x.stopTimer = f x.stopTimer) :
    Passes g x := by
  constructor <;> simp only [hx, hstopped]
  · exact hf.stopped
  · exact hf.task
  · exact hf.last
  · exact hf.timeout
  · exact hf.timeoutState
  · exact hf.role
  · exact hf.polarity
  · exact hf.txStatus
  · exact hf.st
  · exact hf.chip

theorem congr (hf : Passes f x) (htask : x.pd.taskState = .softReset)
    (h : ∀ q : Port, q.pd.taskState = .softReset → g q = f q) : Passes g x :=
  hf.of_eq (h x htask) (h x.stopTimer htask)

theorem ite {c : Port → Prop} [DecidablePred c] (hc : c x.stopTimer ↔ c x)
    (hf : c x → Passes f x) (hg : ¬ c x → Passes g x) :
    Passes (fun q => if c q then f q else g q) x := by
  by_cases h : c x
  · exact (hf h).of_eq (if_pos h) (if_pos (hc.2 h))
  · exact (hg h).of_eq (if_neg h) (if_neg fun hs => h (hc.1 hs))

theorem refl (htask : x.pd.taskState = .softReset) : Passes (fun q => q) x :=
  ⟨rfl, htask, rfl, rfl, rfl, rfl, rfl, rfl, rfl, .refl _⟩

theorem setFlags (htask : x.pd.taskState = .softReset) (flags : PdFlags → PdFlags) :
    Passes (fun q => q.setFlags (flags q.pd.flags)) x :=
  ⟨rfl, htask, rfl, rfl, rfl, rfl, rfl, rfl, rfl, .refl _⟩

theorem transmit (htask : x.pd.taskState = .softReset) (type : TransmitType)
    (header : Port → BitVec 16) (hheader : header x.stopTimer = header x) (data : List Word) :
    Passes (fun q => (q.pdTransmit type (header q) data).2) x where
  stopped := by
    rw [hheader]
    rfl
  task := htask
  last := rfl
  timeout := rfl
  timeoutState := rfl
  role := rfl
  polarity := rfl
  txStatus := rfl
  st := rfl
  chip := .transmit _ _

theorem sendControl (htask : x.pd.taskState = .softReset) (type : CtrlMsgType) :
    Passes (fun q => (q.sendControl type).2) x :=
  transmit htask .sop (fun q => q.header type.toNat 0) rfl []

theorem sendSourceCap (htask : x.pd.taskState = .softReset) (b : Board) :
    Passes (fun q => (q.sendSourceCap b).2) x := by
  unfold Port.sendSourceCap
  by_cases hnone : b.srcPdo.length = 0
  · simp only [hnone, if_true]
    exact transmit htask .sop (fun q => q.header CtrlMsgType.reject.toNat 0) rfl _
  · simp only [hnone, if_false]
    exact transmit htask .sop
      (fun q => q.header DataMsgType.sourceCap.toNat b.srcPdo.length) rfl _

theorem sendSinkCap (htask : x.pd.taskState = .softReset) (b : Board) :
    Passes (fun q => q.sendSinkCap b) x :=
  transmit htask .sop (fun q => q.header DataMsgType.sinkCap.toNat b.snkPdo.length) rfl _

/-! The messages that a resetting port answers, or takes note of, without a change of
its state. -/

theorem handleSourceCap (htask : x.pd.taskState = .softReset) (payload : List Word) :
    Passes (fun q => q.handleSourceCap payload) x := by
  refine (refl htask).congr htask fun q hq => ?_
  simp [Port.handleSourceCap, hq]

theorem handleBist (htask : x.pd.taskState = .softReset) (payload : List Word) :
    Passes (fun q => q.handleBist payload) x := by
  refine (refl htask).congr htask fun q hq => ?_
  unfold Port.handleBist readyReturnState dualRoleIfElse
  rw [hq]
  cases q.pd.powerRole <;> simp

theorem pdUpdatePdoFlags (htask : x.pd.taskState = .softReset) (pdo : Word) :
    Passes (fun q => q.pdUpdatePdoFlags pdo) x := by
  unfold Port.pdUpdatePdoFlags
  split_ifs
  · exact refl htask
  · exact setFlags htask fun flags => { flags with
      partnerDrPower := pdoFixedDualRole pdo
      partnerExtpower := pdoFixedExternal pdo
      partnerUsbComm := pdoFixedCommCap pdo
      partnerDrData := pdoFixedDataSwap pdo }

theorem handleSinkCap (htask : x.pd.taskState = .softReset) (payload : List Word) :
    Passes (fun q => q.handleSinkCap payload) x := by
  have hflags := setFlags htask fun flags => { flags with snkCapRecvd := true }
  have hupdated := hflags.comp (pdUpdatePdoFlags hflags.task (firstObject payload))
  refine hupdated.congr htask fun q hq => ?_
  have htask' : ((q.setFlags { q.pd.flags with snkCapRecvd := true }).pdUpdatePdoFlags
      (firstObject payload)).pd.taskState = q.pd.taskState := by
    unfold Port.pdUpdatePdoFlags
    split_ifs <;> rfl
  simp [Port.handleSinkCap, htask', hq]

theorem handleVdmRequest (htask : x.pd.taskState = .softReset) (now : Nat)
    (payload : List Word) : Passes (fun q => q.handleVdmRequest now payload) x := by
  unfold Port.handleVdmRequest
  simp only [pdSvdm, pdCustomVdm, ite_self]
  refine ite Iff.rfl (fun _ => ?_) fun _ => ite Iff.rfl (fun _ => ?_) fun _ => refl htask
  · exact ⟨rfl, htask, rfl, rfl, rfl, rfl, rfl, rfl, rfl, .refl _⟩
  · exact ⟨rfl, htask, rfl, rfl, rfl, rfl, rfl, rfl, rfl, .refl _⟩

/-- A VDM waits until the port is in a READY state; only its timeouts go on. -/
theorem pdVdmSendStateMachine (htask : x.pd.taskState = .softReset) (now : Nat) :
    Passes (fun q => q.pdVdmSendStateMachine now) x := by
  have hstopped : x.stopTimer.pd.vdmState = x.pd.vdmState := rfl
  unfold Port.pdVdmSendStateMachine
  cases hstate : x.pd.vdmState
  case ready =>
      rw [hstate] at hstopped
      refine (refl htask).of_eq ?_ ?_
      · simp [hstate, connected_of_softReset htask, pdoBusy, htask]
      · have htask' : x.stopTimer.pd.taskState = .softReset := htask
        simp [hstopped, connected_of_softReset htask', pdoBusy, htask']
  case waitRspBusy =>
      rw [hstate] at hstopped
      have hwait : Passes (fun q => if q.pd.vdmTimeout < now then
          q.modifyPd fun pd => { pd with
            vdoData := pd.vdoRetry :: pd.vdoData.drop 1, vdoCount := 1, vdmState := .ready }
          else q) x := by
        refine ite Iff.rfl (fun _ => ?_) fun _ => refl htask
        exact ⟨rfl, htask, rfl, rfl, rfl, rfl, rfl, rfl, rfl, .refl _⟩
      exact hwait.of_eq (by simp only [hstate]) (by simp only [hstopped])
  case busy =>
      rw [hstate] at hstopped
      have hwait : Passes (fun q => if q.pd.vdmTimeout ≠ 0 ∧ q.pd.vdmTimeout < now then
          q.modifyPd fun pd => { pd with vdmState := .errTmout } else q) x := by
        refine ite Iff.rfl (fun _ => ?_) fun _ => refl htask
        exact ⟨rfl, htask, rfl, rfl, rfl, rfl, rfl, rfl, rfl, .refl _⟩
      exact hwait.of_eq (by simp only [hstate]) (by simp only [hstopped])
  all_goals
    rw [hstate] at hstopped
    exact (refl htask).of_eq (by simp only [hstate]) (by simp only [hstopped])

theorem handleGetSourceCap (htask : x.pd.taskState = .softReset) (b : Board) :
    Passes (fun q => q.handleGetSourceCap b) x := by
  refine (sendSourceCap htask b).congr htask fun q hq => ?_
  simp [Port.handleGetSourceCap, hq]

theorem handleRejectWait (htask : x.pd.taskState = .softReset) (now : Nat) (wait : Bool) :
    Passes (fun q => q.handleRejectWait now wait) x := by
  refine (refl htask).congr htask fun q hq => ?_
  simp [Port.handleRejectWait, hq]

end Passes

/-- What a message does to a resetting port, by whether it ends the reset. -/
structure Reacts (f : Port → Port) (x : Port) (ends : Bool) : Prop where
  leaves : ends = true → Leaves f x
  passes : ends = false → Passes f x

namespace Reacts

variable {f : Port → Port} {x : Port}

theorem of_passes (h : Passes f x) : Reacts f x false :=
  ⟨fun hends => absurd hends Bool.false_ne_true, fun _ => h⟩

theorem of_leaves (h : Leaves f x) : Reacts f x true :=
  ⟨fun _ => h, fun hends => absurd hends.symm Bool.false_ne_true⟩

theorem executeSoftReset_task (x : Port) : x.executeSoftReset.pd.taskState ∈ resetLeftStates := by
  have htask : x.executeSoftReset.pd.taskState =
      x.pd.powerRole.ifElse .snkDiscovery .srcDiscovery := by
    unfold Port.executeSoftReset dualRoleIfElse
    rw [setState_pd]
    rfl
  rw [htask]
  cases x.pd.powerRole <;> decide

theorem handleRequestMsg (htask : x.pd.taskState = .softReset) {b : Board}
    {payload : List Word} {acceptable : Bool}
    (hacceptable : acceptable = true ↔ payload.length = 1 ∧
      pdCheckRequestedVoltage b (firstObject payload) = .success) :
    Reacts (fun q => q.handleRequestMsg b payload) x
      (!(x.pd.powerRole == .source && acceptable && x.pd.txStatus != .success)) := by
  by_cases hgrant : x.pd.powerRole = .source ∧ acceptable = true
  · have hcond := hgrant
    rw [hacceptable] at hcond
    have hx : x.handleRequestMsg b payload = x.acceptRequest (firstObject payload) := if_pos hcond
    have hstopped : x.stopTimer.handleRequestMsg b payload =
        x.stopTimer.acceptRequest (firstObject payload) := if_pos hcond
    by_cases htx : x.pd.txStatus = .success
    · have hgoes : ∀ q : Port, q.pd.txStatus = .success → ¬ (q.sendControl .accept).1 < 0 := by
        intro q hq
        simp [Port.sendControl, pdTransmit, pdCommIsEnabled, hq]
      have hends : (!(x.pd.powerRole == .source && acceptable && x.pd.txStatus != .success)) =
          true := by
        simp [htx]
      rw [hends]
      refine of_leaves ⟨?_, ?_⟩
      · simp only [hx, hstopped, acceptRequest, if_neg (hgoes x htx),
          if_neg (hgoes x.stopTimer htx)]
        rfl
      · simp only [hx, acceptRequest, if_neg (hgoes x htx), setState_pd]
        decide
    · have hfails : ∀ q : Port, q.pd.txStatus ≠ .success → (q.sendControl .accept).1 < 0 := by
        intro q hq
        simp [Port.sendControl, pdTransmit, pdCommIsEnabled, hq]
      have hends : (!(x.pd.powerRole == .source && acceptable && x.pd.txStatus != .success)) =
          false := by
        simp [hgrant, htx]
      rw [hends]
      refine of_passes ((Passes.sendControl htask .accept).of_eq ?_ ?_)
      · simp only [hx, acceptRequest, if_pos (hfails x htx)]
      · simp only [hstopped, acceptRequest, if_pos (hfails x.stopTimer htx)]
  · have hcond := hgrant
    rw [hacceptable] at hcond
    have hx : x.handleRequestMsg b payload = (x.sendControl .reject).2.setState .srcReady :=
      if_neg hcond
    have hstopped : x.stopTimer.handleRequestMsg b payload =
        (x.stopTimer.sendControl .reject).2.setState .srcReady := if_neg hcond
    have hends : (!(x.pd.powerRole == .source && acceptable && x.pd.txStatus != .success)) =
        true := by
      by_contra hne
      have hdenied : (x.pd.powerRole = .source ∧ acceptable = true) ∧
          ¬ x.pd.txStatus = .success := by
        simpa using hne
      exact hgrant hdenied.1
    rw [hends]
    refine of_leaves ⟨?_, ?_⟩
    · simp only [hx, hstopped]
      rfl
    · simp only [hx, setState_pd]
      decide

theorem handlePsRdy (htask : x.pd.taskState = .softReset) :
    Reacts (fun q => q.handlePsRdy) x (x.pd.powerRole == .sink) := by
  cases hrole : x.pd.powerRole with
  | sink =>
      have hready : ∀ q : Port, q.pd.taskState = .softReset → q.pd.powerRole = .sink →
          q.handlePsRdy =
            (q.setState .snkReady).pdSetInputCurrentLimit q.pd.currLimit q.pd.supplyVoltage := by
        intro q hq hrole
        simp [Port.handlePsRdy, hq, hrole]
      refine of_leaves ⟨?_, ?_⟩
      · simp only [hready x htask hrole, hready x.stopTimer htask hrole]
        rfl
      · simp only [hready x htask hrole, pdSetInputCurrentLimit_pd, setState_pd]
        decide
  | source =>
      have hidle : ∀ q : Port, q.pd.taskState = .softReset → q.pd.powerRole = .source →
          q.handlePsRdy = q := by
        intro q hq hrole
        simp [Port.handlePsRdy, hq, hrole]
      exact of_passes ((Passes.refl htask).of_eq (hidle x htask hrole)
        (hidle x.stopTimer htask hrole))

theorem handleAccept (htask : x.pd.taskState = .softReset) :
    Leaves (fun q => q.handleAccept) x := by
  have haccept : ∀ q : Port, q.pd.taskState = .softReset → q.handleAccept =
      (q.setFlags { q.pd.flags with vbusNeverLow := false }).executeSoftReset := by
    intro q hq
    simp [Port.handleAccept, hq]
  refine ⟨?_, ?_⟩
  · simp only [haccept x htask, haccept x.stopTimer htask]
    rfl
  · simp only [haccept x htask]
    exact executeSoftReset_task _

theorem handleSoftReset (x : Port) : Leaves (fun q => q.handleSoftReset) x :=
  ⟨rfl, executeSoftReset_task x⟩

theorem handleDataRequest (htask : x.pd.taskState = .softReset) (b : Board) (now : Nat)
    {m : PdMsg} (hdata : headerCnt m.head ≠ 0) :
    Reacts (fun q => q.handleDataRequest b now m) x (x.endsSoftReset b m) := by
  have hctrl : ∀ type, m.isCtrl type = false := by
    intro type
    simp [PdMsg.isCtrl, hdata]
  have hends : x.endsSoftReset b m =
      (m.isData .request && !(x.grants b m && x.pd.txStatus != .success)) := by
    simp [endsSoftReset, interruptsReset, hctrl]
  rw [hends]
  unfold Port.handleDataRequest
  cases htype : DataMsgType.ofField (headerType m.head) with
  | none =>
      have hother : m.isData .request = false := by simp [PdMsg.isData, htype]
      rw [hother]
      exact of_passes (.refl htask)
  | some type =>
      cases type with
      | request =>
          have hrequest : m.isData .request = true := by simp [PdMsg.isData, htype, hdata]
          have hacceptable : m.acceptable b = true ↔ m.payload.length = 1 ∧
              pdCheckRequestedVoltage b (firstObject m.payload) = .success := by
            simp [PdMsg.acceptable]
          simpa [grants, hrequest] using handleRequestMsg htask hacceptable
      | _ =>
          have hother : m.isData .request = false := by simp [PdMsg.isData, htype]
          rw [hother]
          refine of_passes ?_
          first
          | exact .handleSourceCap htask m.payload
          | exact .handleBist htask m.payload
          | exact .handleSinkCap htask m.payload
          | exact .handleVdmRequest htask now m.payload

theorem handleCtrlRequest (htask : x.pd.taskState = .softReset) (b : Board) (now : Nat)
    {m : PdMsg} (hctrl : headerCnt m.head = 0) :
    Reacts (fun q => q.handleCtrlRequest b now m) x (x.endsSoftReset b m) := by
  have hdata : ∀ type, m.isData type = false := by
    intro type
    simp [PdMsg.isData, hctrl]
  have hends : x.endsSoftReset b m = (m.isCtrl .accept ||
      (m.isCtrl .softReset || (m.isCtrl .psRdy && x.pd.powerRole == .sink))) := by
    simp [endsSoftReset, interruptsReset, hdata]
  have htype : ∀ type, m.isCtrl type =
      decide (CtrlMsgType.ofField (headerType m.head) = some type) := by
    intro type
    simp [PdMsg.isCtrl, hctrl]
  rw [hends, htype, htype, htype]
  unfold Port.handleCtrlRequest
  cases CtrlMsgType.ofField (headerType m.head) with
  | none => exact of_passes (.refl htask)
  | some type =>
      cases type with
      | accept => exact of_leaves (handleAccept htask)
      | softReset => exact of_leaves (handleSoftReset x)
      | psRdy => simpa using handlePsRdy htask
      | goodCrc => exact of_passes (.refl htask)
      | gotoMin => exact of_passes (.refl htask)
      | ping => exact of_passes (.refl htask)
      | reject => exact of_passes (.handleRejectWait htask now false)
      | wait => exact of_passes (.handleRejectWait htask now true)
      | getSourceCap => exact of_passes (.handleGetSourceCap htask b)
      | getSinkCap => exact of_passes (.sendSinkCap htask b)
      | drSwap => exact of_passes (.sendControl htask .reject)
      | prSwap => exact of_passes (.sendControl htask .reject)
      | vconnSwap => exact of_passes (.sendControl htask .reject)

theorem comp {g : Port → Port} {ends : Bool} (hf : Passes f x) (hg : Reacts g (f x) ends) :
    Reacts (fun q => g (f q)) x ends where
  leaves := fun hends => ⟨by rw [hf.stopped, (hg.leaves hends).stopped], (hg.leaves hends).task⟩
  passes := fun hends => hf.comp (hg.passes hends)

theorem endsSoftReset_eq (hf : Passes f x) (b : Board) (m : PdMsg) :
    (f x).endsSoftReset b m = x.endsSoftReset b m := by
  simp only [endsSoftReset, interruptsReset, grants, hf.role, hf.txStatus]

theorem of_eq {g : Port → Port} {ends : Bool} (hf : Reacts f x ends) (hx : g x = f x)
    (hstopped : g x.stopTimer = f x.stopTimer) : Reacts g x ends where
  leaves := fun hends => ⟨by rw [hx, hstopped, (hf.leaves hends).stopped],
    hx ▸ (hf.leaves hends).task⟩
  passes := fun hends => (hf.passes hends).of_eq hx hstopped

theorem handleRequest (htask : x.pd.taskState = .softReset) (b : Board) (now : Nat) (m : PdMsg) :
    Reacts (fun q => q.handleRequest b now m) x (x.endsSoftReset b m) := by
  have hconn : ∀ q : Port, q.pd.taskState = .softReset → ¬ ¬ q.pdIsConnected = true := fun q hq =>
    not_not.2 (connected_of_softReset hq)
  have hstopped := hconn x.stopTimer htask
  by_cases hcnt : headerCnt m.head ≠ 0
  · refine (handleDataRequest htask b now hcnt).of_eq ?_ ?_
    · simp only [Port.handleRequest, if_neg (hconn x htask), if_pos hcnt]
    · simp only [Port.handleRequest, if_neg hstopped, if_pos hcnt]
  · refine (handleCtrlRequest htask b now (not_not.1 hcnt)).of_eq ?_ ?_
    · simp only [Port.handleRequest, if_neg (hconn x htask), if_neg hcnt]
    · simp only [Port.handleRequest, if_neg hstopped, if_neg hcnt]

theorem receive (htask : x.pd.taskState = .softReset) (b : Board) (inp : Input) :
    Reacts (fun q => q.receive b inp) x (inp.message.any (x.endsSoftReset b)) := by
  unfold Port.receive
  cases inp.message with
  | none => exact of_passes (.refl htask)
  | some m =>
      have hrecord : Passes (fun q => q.record (.received m)) x :=
        ⟨rfl, htask, rfl, rfl, rfl, rfl, rfl, rfl, rfl, .refl _⟩
      have hmessage : Reacts (fun q => q.handleRequest b (inp.time .message) m)
          (x.record (.received m)) (x.endsSoftReset b m) :=
        @handleRequest (x.record (.received m)) htask b _ m
      exact comp hrecord hmessage

/-- All of an iteration that is ahead of the switch. -/
theorem arrive (htask : x.pd.taskState = .softReset) (b : Board) (inp : Input) :
    Reacts (fun q => (q.pdVdmSendStateMachine (inp.time .vdm)).receive b inp) x
      (inp.message.any (x.endsSoftReset b)) := by
  have hvdm := Passes.pdVdmSendStateMachine htask (inp.time .vdm)
  have hmessage := receive hvdm.task b inp
  have hends : (x.pdVdmSendStateMachine (inp.time .vdm)).endsSoftReset b = x.endsSoftReset b :=
    funext (endsSoftReset_eq hvdm b)
  rw [hends] at hmessage
  exact comp hvdm hmessage

end Reacts

/-! The switch and the tail of an iteration. -/

theorem setState_softReset (p : Port) :
    p.setState .softReset = (p.setTask .softReset).stopTimer := by
  unfold setState
  simp only [reduceCtorEq, and_false, or_self, if_false]
  split_ifs <;> rfl

/-- The state of the port as the switch finds it, from the reset on. -/
theorem beforeSwitch_eq_arrive {p : Port} (h : p.control.suspending = false) (b : Board)
    (inp : Input) : p.beforeSwitch b inp =
      ((p.applyReset inp.reset).pdVdmSendStateMachine (inp.time .vdm)).receive b inp := by
  rw [beforeSwitch_eq h]
  unfold beforeMessage
  rw [checkBoardAndEvents_eq]

/-- On entry the state arms its timer or leaves. -/
theorem softReset_stopTimer {y : Port} (hentry : y.entering = true) (inp : Input) :
    y.stopTimer.softReset inp = y.softReset inp := by
  have hstopped : y.stopTimer.entering = true := hentry
  have hres : (y.stopTimer.resetMsgId.sendControl .softReset).1 =
      (y.resetMsgId.sendControl .softReset).1 := rfl
  unfold Port.softReset
  simp only [hentry, hstopped, if_true, hres]
  split_ifs <;> rfl

theorem softReset_idle {y : Port} (hentry : y.entering = false) (inp : Input) :
    y.softReset inp = y := by
  unfold Port.softReset
  simp only [hentry, Bool.false_eq_true, if_false]

/-- The ports differ in the state and the timer only. -/
def Retimed (z w : Port) : Prop :=
  ∃ (task : PdState) (timeout : Nat) (timeoutState : PdState),
    (task = .softReset ∨ task = .hardResetSend) ∧
      z = w.modifyPd fun pd =>
        { pd with taskState := task, timeout := timeout, timeoutState := timeoutState }

theorem SameEffect.refl (p : Port) : SameEffect p p := ⟨rfl, rfl, rfl, rfl⟩

/-- The port that a source compares its CC lines in. -/
def measuredInTail (p : Port) (inp : Input) : Port :=
  let p := p.tcpmGetCc inp.ccTail
  if p.pd.polarity then p.modifySt fun st => { st with cc1 := st.cc2 } else p

theorem measuredInTail_cc1 (p : Port) (inp : Input) :
    (p.measuredInTail inp).st.cc1 = (p.tcpmGetCc inp.ccTail).ccInUse := by
  unfold measuredInTail ccInUse
  simp only
  split_ifs <;> rfl

theorem checkSourceDetach_source {p : Port} (hrole : p.pd.powerRole = .source) (inp : Input) :
    p.checkSourceDetach inp = if p.losesSink inp = true then
      ((p.measuredInTail inp).record .detach).setState .srcDisconnected
      else p.measuredInTail inp := by
  have hloses : p.losesSink inp = true ↔ (p.measuredInTail inp).st.cc1 = .open := by
    rw [measuredInTail_cc1]
    simp [losesSink, hrole]
  unfold checkSourceDetach
  simp only [hrole, if_true, pdTrySrcEnable, Bool.false_eq_true, if_false, hloses]
  rfl

theorem checkSourceDetach_sink {p : Port} (hrole : p.pd.powerRole = .sink) (inp : Input) :
    p.checkSourceDetach inp = p := by
  unfold checkSourceDetach
  simp only [hrole, reduceCtorEq, if_false]

/-- The way into a disconnected state does not depend on which of the two states it
starts in. -/
theorem setState_srcDisconnected {p : Port}
    (htask : p.pd.taskState = .softReset ∨ p.pd.taskState = .hardResetSend) :
    p.setState .srcDisconnected =
      ((p.setStateTimeout 0 .disabled).setTask .srcDisconnected).enterDisconnected := by
  unfold setState
  rcases htask with htask | htask <;> simp [htask]

/-- Ports that differ in the timer only become alike when the sink is lost. -/
theorem sameEffect_checkSourceDetach {z w : Port} (h : Retimed z w) (hne : z.pd ≠ w.pd)
    (htask : w.pd.taskState = .softReset) (inp : Input) :
    SameEffect (z.checkSourceDetach inp) (w.checkSourceDetach inp) ↔ w.losesSink inp = true := by
  obtain ⟨task, timeout, timeoutState, hstate, rfl⟩ := h
  generalize hg : (fun pd : PdProtocol =>
    { pd with taskState := task, timeout := timeout, timeoutState := timeoutState }) = g at *
  have hrole : (w.modifyPd g).pd.powerRole = w.pd.powerRole := by rw [← hg]; rfl
  cases hw : w.pd.powerRole with
  | sink =>
      rw [checkSourceDetach_sink hw, checkSourceDetach_sink (hrole.trans hw)]
      have hkeeps : w.losesSink inp = false := by simp [losesSink, hw]
      rw [hkeeps]
      exact iff_of_false (fun hsame => hne hsame.pd) Bool.false_ne_true
  | source =>
      have hloses : (w.modifyPd g).losesSink inp = w.losesSink inp := by rw [← hg]; rfl
      have hmeasured : (w.modifyPd g).measuredInTail inp = (w.measuredInTail inp).modifyPd g := by
        rw [← hg]
        unfold measuredInTail
        simp only
        split_ifs <;> first | rfl | contradiction
      have hpd : (w.measuredInTail inp).pd = w.pd := by
        unfold measuredInTail
        simp only
        split_ifs <;> rfl
      rw [checkSourceDetach_source hw, checkSourceDetach_source (hrole.trans hw), hloses, hmeasured]
      split_ifs with hopen
      · refine iff_of_true ?_ hopen
        have hleft : (((w.measuredInTail inp).modifyPd g).record .detach).pd.taskState = task := by
          rw [← hg]
          rfl
        have hright : ((w.measuredInTail inp).record .detach).pd.taskState = .softReset := by
          rw [record_pd, hpd, htask]
        rw [setState_srcDisconnected (hleft ▸ hstate), setState_srcDisconnected (.inl hright)]
        have hsame : ((((w.measuredInTail inp).modifyPd g).record .detach).setStateTimeout 0
            .disabled).setTask .srcDisconnected = (((w.measuredInTail inp).record
            .detach).setStateTimeout 0 .disabled).setTask .srcDisconnected := by
          rw [← hg]
          rfl
        rw [hsame]
        exact .refl _
      · refine iff_of_false (fun hsame => hne ?_) hopen
        have := hsame.pd
        rwa [modifyPd_pd, hpd] at this

theorem finish_of_resetting {p q : Port} {thisState : PdState} {inp : Input}
    (hq : (p.setLast thisState).checkTimeout (inp.time .tail) = q)
    (htask : q.pd.taskState = .softReset ∨ q.pd.taskState = .hardResetSend) :
    p.finish thisState inp = q.checkSourceDetach inp := by
  unfold finish
  simp only [checkSinkDetach_eq, hq]
  refine if_neg ?_
  unfold pdIsConnected pdIsPowerSwapping dualRoleIfElse
  cases q.pd.powerRole <;> rcases htask with htask | htask <;> simp [htask]

theorem sameEffect_finish {y : Port} (htask : y.pd.taskState = .softReset)
    (htimeout : y.pd.timeout ≠ 0) (htimer : y.pd.timeoutState = .hardResetSend) (inp : Input) :
    SameEffect (y.finish .softReset inp) (y.stopTimer.finish .softReset inp) ↔
      y.losesSink inp = true := by
  have hstopped : (y.stopTimer.setLast .softReset).checkTimeout (inp.time .tail) =
      y.stopTimer.setLast .softReset := if_neg fun h => h.1 rfl
  have hw : (y.stopTimer.setLast .softReset).pd.taskState = .softReset := htask
  have hloses : (y.stopTimer.setLast .softReset).losesSink inp = y.losesSink inp := rfl
  rw [finish_of_resetting hstopped (.inl hw), ← hloses]
  by_cases hexpired : y.pd.timeout ≤ inp.time .tail
  · have hfired : (y.setLast .softReset).checkTimeout (inp.time .tail) =
        (y.stopTimer.setLast .softReset).setTask .hardResetSend := by
      refine (if_pos ⟨htimeout, hexpired⟩).trans ?_
      change (y.setLast .softReset).setState y.pd.timeoutState = _
      rw [htimer]
      unfold setState
      simp only [setLast_pd, htask, reduceCtorEq, false_and, or_self, if_false]
      rfl
    rw [finish_of_resetting hfired (.inr rfl)]
    refine sameEffect_checkSourceDetach ⟨.hardResetSend, 0, .disabled, .inr rfl, rfl⟩ ?_ hw inp
    intro hpd
    have hsame : PdState.hardResetSend = y.pd.taskState := congrArg PdProtocol.taskState hpd
    rw [htask] at hsame
    cases hsame
  · have hruns : (y.setLast .softReset).checkTimeout (inp.time .tail) = y.setLast .softReset :=
      if_neg fun h => hexpired h.2
    rw [finish_of_resetting hruns (.inl htask)]
    refine sameEffect_checkSourceDetach
      ⟨y.pd.taskState, y.pd.timeout, y.pd.timeoutState, .inl htask, rfl⟩ ?_ hw inp
    intro hpd
    exact htimeout (congrArg PdProtocol.timeout hpd)

theorem lastState_finish (p : Port) (thisState : PdState) (inp : Input) :
    (p.finish thisState inp).pd.lastState = thisState := by
  have hensures : Machine.Ensures (p.control.finish thisState) fun w => w.last = thisState := by
    refine p.control.finish_ensures rfl (fun _ => ?_) fun w hw _ _ _ => ?_
    · rw [Control.setState_last]
      rfl
    · rw [Control.setState_last]
      exact hw
  exact hensures _ (p.control_finish_mem thisState inp)

/-- The reset argument is read ahead of the switch only. -/
theorem runState_reset (p : Port) (b : Board) (inp : Input) (reset : Bool) :
    p.runState b { inp with reset := reset } = p.runState b inp := by
  unfold runState
  cases p.pd.taskState <;> rfl

/-- The iteration from the switch on. -/
def fromSwitch (b : Board) (p : Port) (inp : Input) : Port :=
  (p.runState b inp).finish p.pd.taskState inp

theorem step_iterate_eq {p : Port} (h : p.control.suspending = false) (b : Board) (inp : Input)
    (reset : Bool) : p.step b (.iterate { inp with reset := reset }) =
      (((p.applyReset reset).pdVdmSendStateMachine (inp.time .vdm)).receive b inp).fromSwitch b
        inp := by
  change (p.pdRunStateMachine b { inp with reset := reset }) = _
  unfold pdRunStateMachine
  simp only [beforeSwitch_eq_arrive h, runState_reset]
  rfl

theorem fromSwitch_softReset {y : Port} (htask : y.pd.taskState = .softReset) (b : Board)
    (inp : Input) : y.fromSwitch b inp = (y.softReset inp).finish .softReset inp := by
  simp only [fromSwitch, runState, htask]

theorem fromSwitch_stopTimer {y : Port} (htask : y.pd.taskState = .softReset)
    (hlast : y.pd.lastState ≠ .softReset) (b : Board) (inp : Input) :
    y.stopTimer.fromSwitch b inp = y.fromSwitch b inp := by
  have hentry : y.entering = true := by simp [entering, htask, hlast]
  have htask' : y.stopTimer.pd.taskState = .softReset := htask
  rw [fromSwitch_softReset htask, fromSwitch_softReset htask', softReset_stopTimer hentry]

theorem sameEffect_fromSwitch {y : Port} (htask : y.pd.taskState = .softReset)
    (hlast : y.pd.lastState = .softReset) (htimeout : y.pd.timeout ≠ 0)
    (htimer : y.pd.timeoutState = .hardResetSend) (b : Board) (inp : Input) :
    SameEffect (y.fromSwitch b inp) (y.stopTimer.fromSwitch b inp) ↔ y.losesSink inp = true := by
  have hentry : y.entering = false := by simp [entering, htask, hlast]
  have hentry' : y.stopTimer.entering = false := hentry
  have htask' : y.stopTimer.pd.taskState = .softReset := htask
  rw [fromSwitch_softReset htask, fromSwitch_softReset htask', softReset_idle hentry,
    softReset_idle hentry']
  exact sameEffect_finish htask htimeout htimer inp

/-- What the tail measures is what it would have measured before the iteration. -/
theorem Passes.losesSink {f : Port → Port} {x : Port} (hf : Passes f x) (inp : Input) :
    (f x).losesSink inp = x.losesSink inp := by
  obtain ⟨hcc1, hcc2⟩ := hf.chip.getCc_eq inp.ccTail x.st.cc1 x.st.cc2
  have hlevel : ((f x).tcpmGetCc inp.ccTail).ccInUse = (x.tcpmGetCc inp.ccTail).ccInUse := by
    unfold ccInUse Port.tcpmGetCc
    cases hpolarity : x.pd.polarity with
    | false =>
        have hpolarity' := hf.polarity.trans hpolarity
        simpa [hpolarity, hpolarity', hf.st] using hcc1
    | true =>
        have hpolarity' := hf.polarity.trans hpolarity
        simpa [hpolarity, hpolarity', hf.st] using hcc2
  unfold Port.losesSink
  rw [hlevel, hf.role]

/-- The two resets of a connected port. -/
theorem resetsAlike_connected {p : Port} (hawake : p.control.suspending = false)
    (hin : p.control.InState) (hidle : p.control.Idle) (hconn : p.pdIsConnected = true)
    (b : Board) (inp : Input) : p.ResetsAlike b inp ↔ p.resetsTheSame b inp = true := by
  have hcall : p.step b .softReset = (p.setTask .softReset).stopTimer := by
    change p.pdSoftReset = _
    unfold pdSoftReset
    rw [if_pos hconn, setState_softReset]
  have hstep := step_iterate_eq hawake b inp true
  have hstep' := step_iterate_eq (p := (p.setTask .softReset).stopTimer) hawake b inp false
  unfold ResetsAlike
  rw [hcall, hstep, hstep']
  simp only [applyReset, if_true, Bool.false_eq_true, if_false, resetsTheSame, hconn, Bool.true_and]
  have hreacts := Reacts.arrive (x := p.setTask .softReset) rfl b inp
  have hends : (p.setTask .softReset).endsSoftReset b = p.endsSoftReset b := rfl
  rw [hends] at hreacts
  cases hmessage : inp.message.any (p.endsSoftReset b) with
  | true =>
      rw [hmessage] at hreacts
      rw [(hreacts.leaves rfl).stopped]
      simpa using SameEffect.refl _
  | false =>
      rw [hmessage] at hreacts
      have hpasses := hreacts.passes rfl
      rw [hpasses.stopped]
      have hlast := hpasses.last
      have htimeout := hpasses.timeout
      have htimer := hpasses.timeoutState
      have htask := hpasses.task
      have hloses := hpasses.losesSink inp
      generalize ((p.setTask .softReset).pdVdmSendStateMachine (inp.time .vdm)).receive b inp =
        y at *
      simp only [setTask_pd] at hlast htimeout htimer
      by_cases hentry : p.pd.lastState = .softReset
      swap
      · rw [fromSwitch_stopTimer htask (hlast ▸ hentry)]
        simpa [awaitsAccept, hentry] using SameEffect.refl _
      by_cases hstopped : p.pd.timeout = 0
      · have hstate : p.pd.timeoutState = .disabled := hidle (by simp [control, hstopped])
        rw [stopTimer_eq y (htimeout.trans hstopped) (htimer.trans hstate)]
        simpa [awaitsAccept, hstopped] using SameEffect.refl _
      have harmed : p.control.armed = true := by simp [control, hstopped]
      have hsame : p.pd.taskState = p.pd.lastState := by
        by_contra hne
        rw [hin.unarmed hne] at harmed
        cases harmed
      have hwaits : p.awaitsAccept = true := by
        simp [awaitsAccept, hsame, hentry, hstopped]
      have hstate : p.pd.timeoutState = .hardResetSend := by
        have hmem := hin.timer hsame harmed
        change p.pd.timeoutState ∈ Control.timers p.pd.powerRole p.pd.taskState at hmem
        rw [hsame, hentry] at hmem
        simpa [Control.timers] using hmem
      have hkept : (p.setTask .softReset).losesSink inp = p.losesSink inp := rfl
      rw [sameEffect_fromSwitch htask (hlast.trans hentry) (htimeout ▸ hstopped)
        (htimer.trans hstate), hloses, hkept, hwaits]
      simp

/-- A port that is not connected never notices the reset call, but the argument leaves
its mark in `last_state`. -/
theorem not_resetsAlike_unconnected {p : Port} (hawake : p.control.suspending = false)
    (hconn : p.pdIsConnected = false) (b : Board) (inp : Input) :
    ¬ p.ResetsAlike b inp := by
  intro hsame
  have hcall : p.step b .softReset = p := by
    change p.pdSoftReset = _
    unfold pdSoftReset
    rw [if_neg (by simp [hconn])]
  have hstep := step_iterate_eq hawake b inp true
  have hstep' := step_iterate_eq hawake b inp false
  unfold ResetsAlike at hsame
  rw [hcall, hstep, hstep'] at hsame
  simp only [applyReset, if_true, Bool.false_eq_true, if_false] at hsame
  have hlast := congrArg PdProtocol.lastState hsame.pd
  simp only [fromSwitch, lastState_finish] at hlast
  have hleft : (((p.setTask .softReset).pdVdmSendStateMachine (inp.time .vdm)).receive b
      inp).pd.taskState ∈ PdState.softReset :: resetLeftStates := by
    have hreacts := Reacts.arrive (x := p.setTask .softReset) rfl b inp
    cases hmessage : inp.message.any ((p.setTask .softReset).endsSoftReset b) with
    | true => exact List.mem_cons_of_mem _ (hreacts.leaves hmessage).task
    | false => exact List.mem_cons.2 (.inl (hreacts.passes hmessage).task)
  have hkept : ((p.pdVdmSendStateMachine (inp.time .vdm)).receive b inp).pd.taskState =
      p.pd.taskState := by
    have hcontrol := p.control_pdVdmSendStateMachine (inp.time .vdm)
    generalize p.pdVdmSendStateMachine (inp.time .vdm) = q at *
    have hidle : q.pdIsConnected = false := by
      rw [← control_connected, hcontrol]
      exact hconn
    have htask : q.pd.taskState = p.pd.taskState := congrArg Control.task hcontrol
    unfold receive
    cases inp.message with
    | none => exact htask
    | some m =>
        have hrecord : (q.record (.received m)).pdIsConnected = false := hidle
        simpa [handleRequest, hrecord] using htask
  rw [hlast, hkept] at hleft
  rw [connected_of_resetting hleft] at hconn
  cases hconn

/-- Reset by argument equals reset by call exactly when the port is connected and no soft
reset of its own waits for the Accept, unless a message of the same iteration ends that
reset or the tail finds the CC line of a source open. -/
theorem resetsAlike_iff (b : Board) (es : List Event) (inp : Input) :
    (after b es).ResetsAlike b inp ↔ (after b es).resetsTheSame b inp = true := by
  have hawake := awake_after b es
  cases hconn : (after b es).pdIsConnected with
  | true =>
      exact resetsAlike_connected hawake ((Control.inState_invariant b).always es)
        ((Control.idle_invariant b).always es) hconn b inp
  | false =>
      have hnever := not_resetsAlike_unconnected hawake hconn b inp
      simp [resetsTheSame, hconn, hnever]

/-- With nothing attached the argument sends a Soft Reset, the call nothing. -/
theorem not_resetsAlike_unattached :
    ¬ ∀ (es : List Event) (inp : Input), (after .shipped es).ResetsAlike .shipped inp := by
  intro h
  have hsame := h []
    { reset := false, message := none, cc := openCc, ccTail := openCc, time := fun _ => 0 }
  have hsent := hsame.sent
  revert hsent
  decide +kernel

end Port

end UsbPd
