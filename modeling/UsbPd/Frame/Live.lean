import UsbPd.Control.Rules
import UsbPd.Frame.Scratch

/-!
# What an iteration depends on

Two ports that differ in their scratch variables go the same way through an
iteration. With VCONN on, a measurement as a source leaves one of the two CC levels
alone, so then the levels must agree.
-/

namespace UsbPd

/-! No part of an iteration touches VCONN. -/

namespace Control

variable {v w : Control}

theorem Reaction.vconn {kind : MsgKind} (h : Reaction v kind w) : w.vconn = v.vconn := by
  cases h with
  | ignored => rfl
  | retryLater => rfl
  | _ => exact setState_vconn _ _

theorem Outcome.vconn (h : Outcome v w) : w.vconn = v.vconn := by
  cases h with
  | stays | arms | requests | drivesVbus | cutsVbus | becomesSink => rfl
  | sentReset | failsReset | sendsReset => rfl
  | togglesToSource | togglesToSink | sendsCaps => exact setState_vconn _ _
  | executesReset => rw [executeHardReset_eq]; split <;> rfl
  | _ => exact setState_vconn _ _

end Control

namespace Port

theorem setState_vconn (p : Port) (s : PdState) :
    (p.setState s).chip.vconnEnabled = p.chip.vconnEnabled :=
  (congrArg Control.vconn (p.control_setState s)).trans (Control.setState_vconn _ _)

/-- The ports differ at most in their scratch variables; the CC levels agree
under the condition `c`. -/
def Near (c : Prop) (p q : Port) : Prop :=
  ∃ x : Scratch, q = p.scribble x ∧ (c → x.cc1 = p.st.cc1 ∧ x.cc2 = p.st.cc2)

namespace Near

variable {c d : Prop} {p q : Port}

theorem mono (h : Near c p q) (hd : d → c) : Near d p q := by
  obtain ⟨x, hq, hcc⟩ := h
  exact ⟨x, hq, fun hd' => hcc (hd hd')⟩

theorem pd (h : Near c p q) : q.pd = p.pd := by
  obtain ⟨x, rfl, -⟩ := h
  rfl

theorem cc (h : Near True p q) : q.st.cc1 = p.st.cc1 ∧ q.st.cc2 = p.st.cc2 := by
  obtain ⟨x, rfl, hcc⟩ := h
  exact hcc trivial

/-- A function that the scratch variables do not matter to. -/
theorem map {f : Port → Port} (h : Near c p q)
    (hf : ∀ (r : Port) (x : Scratch), (f r).scribble x = f (r.scribble x)) :
    Near c (f p) (f q) := by
  obtain ⟨x, rfl, hcc⟩ := h
  have hkept : (f p).scribble p.st.scratch = f p := hf p p.st.scratch
  refine ⟨x, (hf p x).symm, fun hc => ?_⟩
  rw [← hkept]
  exact hcc hc

/-- The levels are measured: without VCONN neither of the old ones is kept. -/
theorem tcpmGetCc (h : Near c p q) (hvconn : p.chip.vconnEnabled = true → c) (r : CcReading) :
    Near True (p.tcpmGetCc r) (q.tcpmGetCc r) := by
  obtain ⟨x, rfl, hcc⟩ := h
  have hget : (p.scribble x).chip.getCc r (p.scribble x).st.cc1 (p.scribble x).st.cc2 =
      p.chip.getCc r p.st.cc1 p.st.cc2 := by
    change p.chip.getCc r x.cc1 x.cc2 = _
    by_cases hon : p.chip.vconnEnabled = true
    · obtain ⟨h1, h2⟩ := hcc (hvconn hon)
      rw [h1, h2]
    · unfold Fusb302.getCc Fusb302.detectCcPinSourceManual
      rw [if_neg hon, if_neg hon]
  unfold Port.tcpmGetCc
  rw [hget]
  exact ⟨{ x with
    cc1 := (p.chip.getCc r p.st.cc1 p.st.cc2).1, cc2 := (p.chip.getCc r p.st.cc1 p.st.cc2).2.1 },
    rfl, fun _ => ⟨rfl, rfl⟩⟩

theorem drpState (h : Near c p q) : q.st.drpState = p.st.drpState := by
  obtain ⟨x, rfl, -⟩ := h
  rfl

theorem nextRoleSwap (h : Near c p q) : q.st.nextRoleSwap = p.st.nextRoleSwap := by
  obtain ⟨x, rfl, -⟩ := h
  rfl

theorem modifyPd (h : Near c p q) (f : PdProtocol → PdProtocol) :
    Near c (p.modifyPd f) (q.modifyPd f) :=
  h.map fun r x => scribble_modifyPd r x f

theorem record (h : Near c p q) (a : Call) : Near c (p.record a) (q.record a) :=
  h.map fun r x => scribble_record r x a

theorem setFlags (h : Near c p q) (flags : PdFlags) :
    Near c (p.setFlags flags) (q.setFlags flags) :=
  h.map fun r x => scribble_setFlags r x flags

theorem setPowerRole (h : Near c p q) (role : PowerRole) :
    Near c (p.setPowerRole role) (q.setPowerRole role) :=
  h.map fun r x => scribble_setPowerRole r x role

theorem setState (h : Near c p q) (s : PdState) : Near c (p.setState s) (q.setState s) :=
  h.map fun r x => scribble_setState r x s

theorem tcpmSetCc (h : Near c p q) (pull : CcPull) : Near c (p.tcpmSetCc pull) (q.tcpmSetCc pull) :=
  h.map fun r x => scribble_tcpmSetCc r x pull

theorem tcpmSetRxEnable (h : Near c p q) (enable : Bool) :
    Near c (p.tcpmSetRxEnable enable) (q.tcpmSetRxEnable enable) :=
  h.map fun r x => scribble_tcpmSetRxEnable r x enable

theorem sendControl (h : Near c p q) (type : CtrlMsgType) :
    Near c (p.sendControl type).2 (q.sendControl type).2 :=
  h.map (f := fun r => (r.sendControl type).2) fun _ _ => rfl

/-- Assignments to statics that are not scratch variables. -/
theorem write (h : Near c p q) {f : Statics → Statics}
    (hf : ∀ (r : Port) (x : Scratch), (r.modifySt f).scribble x = (r.scribble x).modifySt f) :
    Near c (p.modifySt f) (q.modifySt f) :=
  h.map hf

/-- Assignments to the scratch variables other than the levels. -/
theorem assign (h : Near c p q) {f g : Statics → Statics}
    (hf : ∀ st, ∃ t ch m, f st =
      { st with typecCurr := t, typecCurrChange := ch, sourceCapMaxIndex := m })
    (hg : ∀ st, ∃ t ch m, g st =
      { st with typecCurr := t, typecCurrChange := ch, sourceCapMaxIndex := m }) :
    Near c (p.modifySt f) (q.modifySt g) := by
  obtain ⟨x, rfl, hcc⟩ := h
  obtain ⟨t, ch, m, hfst⟩ := hf p.st
  obtain ⟨t', ch', m', hgst⟩ := hg (p.scribble x).st
  refine ⟨{ x with typecCurr := t', typecCurrChange := ch', sourceCapMaxIndex := m' }, ?_, ?_⟩
  · unfold modifySt
    rw [hgst, hfst]
    rfl
  · unfold modifySt
    rw [hfst]
    exact hcc

/-- The level of the partner's pin as the first level. -/
theorem copyCc (h : Near True p q) :
    Near True (p.modifySt fun st => { st with cc1 := st.cc2 })
      (q.modifySt fun st => { st with cc1 := st.cc2 }) := by
  obtain ⟨x, rfl, hcc⟩ := h
  have h2 := (hcc trivial).2
  exact ⟨{ x with cc1 := x.cc2 }, rfl, fun _ => ⟨h2, h2⟩⟩

/-! The states that measure. -/

theorem snkDisconnected (h : Near c p q) (hvconn : p.chip.vconnEnabled = true → c) (inp : Input) :
    Near c (p.snkDisconnected inp) (q.snkDisconnected inp) := by
  have hm := h.tcpmGetCc hvconn inp.cc
  refine mono ?_ fun _ => trivial
  unfold Port.snkDisconnected
  generalize p.tcpmGetCc inp.cc = r at hm ⊢
  generalize q.tcpmGetCc inp.cc = r' at hm ⊢
  simp only
  rw [hm.pd, hm.cc.1, hm.cc.2, hm.drpState, hm.nextRoleSwap]
  split_ifs
  · exact ((hm.modifyPd _).write fun _ _ => rfl).setState _
  · exact hm.setFlags _
  · exact hm
  · exact (((hm.setPowerRole _).setState _).tcpmSetCc _).write fun _ _ => rfl
  · exact hm

theorem srcDisconnected (h : Near c p q) (hvconn : p.chip.vconnEnabled = true → c) (inp : Input) :
    Near c (p.srcDisconnected inp) (q.srcDisconnected inp) := by
  have hm := h.tcpmGetCc hvconn inp.cc
  refine mono ?_ fun _ => trivial
  unfold Port.srcDisconnected
  generalize p.tcpmGetCc inp.cc = r at hm ⊢
  generalize q.tcpmGetCc inp.cc = r' at hm ⊢
  simp only
  rw [hm.pd, hm.cc.1, hm.cc.2, hm.drpState, hm.nextRoleSwap]
  split_ifs
  · exact (hm.modifyPd _).setState _
  · exact ((((hm.setPowerRole _).setState _).tcpmSetCc _).write fun _ _ => rfl).modifyPd _
  · exact hm

theorem attachSource (h : Near True p q) (s : CcState) :
    Near True (p.attachSource s) (q.attachSource s) := by
  have hrole := (h.modifyPd fun pd => { pd with
    polarity := getSnkPolarity p.st.cc1 p.st.cc2 }).map (f := fun r =>
      (r.tcpmSetPolarity r.pd.polarity).resetMsgId.pdSetDataRole .ufp) fun _ _ => rfl
  unfold Port.attachSource
  rw [h.cc.1, h.cc.2]
  simp only [pdCommIsEnabled, if_true] at hrole ⊢
  generalize ((p.modifyPd _).tcpmSetPolarity _).resetMsgId.pdSetDataRole .ufp = r at hrole ⊢
  generalize ((q.modifyPd _).tcpmSetPolarity _).resetMsgId.pdSetDataRole .ufp = r' at hrole ⊢
  have hset := (hrole.assign (f := fun st => { st with
      typecCurr := getTypecCurrentLimit r.pd.polarity r.st.cc1 r.st.cc2 })
    (g := fun st => { st with
      typecCurr := getTypecCurrentLimit r'.pd.polarity r'.st.cc1 r'.st.cc2 })
    (fun _ => ⟨_, _, _, rfl⟩) fun _ => ⟨_, _, _, rfl⟩).tcpmSetRxEnable true
  generalize Port.tcpmSetRxEnable _ true = w at hset ⊢
  generalize Port.tcpmSetRxEnable _ true = w' at hset ⊢
  rw [hset.pd]
  split_ifs
  · -- the second write of the flags starts from those of the first
    have hflags := hset.setFlags { w.pd.flags with
      checkPrRole := true, checkDrRole := true, checkIdentity := true }
    rw [hflags.pd]
    exact ((hflags.setFlags _).sendControl _).setState _
  · exact ((hset.setFlags _).sendControl _).setState _
  · exact hset

theorem attachSink (h : Near True p q) (s : CcState) :
    Near True (p.attachSink s) (q.attachSink s) := by
  have hrole := (h.modifyPd fun pd => { pd with polarity := decide (p.st.cc1 ≠ .rd) }).map
    (f := fun r => (r.tcpmSetPolarity r.pd.polarity).pdSetDataRole .dfp) fun _ _ => rfl
  unfold Port.attachSink
  rw [h.cc.1]
  simp only [pdCommIsEnabled, pdSetPowerSupplyReady, ne_eq, not_true_eq_false, if_true,
    if_false] at hrole ⊢
  generalize ((p.modifyPd _).tcpmSetPolarity _).pdSetDataRole .dfp = r at hrole ⊢
  generalize ((q.modifyPd _).tcpmSetPolarity _).pdSetDataRole .dfp = r' at hrole ⊢
  rw [hrole.pd]
  generalize hdts : (if s = .debugAcc then r.setFlags _ else r : Port) = w
  generalize hdts' : (if s = .debugAcc then r'.setFlags _ else r' : Port) = w'
  have hset : Near True w w' := by
    rw [← hdts, ← hdts']
    split_ifs
    · exact hrole.setFlags _
    · exact hrole
  have hready := (hset.record (.vbus true)).tcpmSetRxEnable true
  rw [hready.pd]
  exact ((hready.setFlags _).write fun _ _ => rfl).setState _

theorem snkDisconnectedDebounce (h : Near c p q) (hvconn : p.chip.vconnEnabled = true → c)
    (inp : Input) : Near c (p.snkDisconnectedDebounce inp) (q.snkDisconnectedDebounce inp) := by
  have hm := h.tcpmGetCc hvconn inp.cc
  refine mono ?_ fun _ => trivial
  unfold Port.snkDisconnectedDebounce
  generalize p.tcpmGetCc inp.cc = r at hm ⊢
  generalize q.tcpmGetCc inp.cc = r' at hm ⊢
  have hstate : r'.snkCcState = r.snkCcState := by
    unfold snkCcState
    rw [hm.cc.1, hm.cc.2]
  simp only [hstate, pdTrySrcEnable, Bool.false_eq_true, false_and, if_false]
  cases r.snkCcState with
  | none => exact hm.setState _
  | some s =>
      simp only
      rw [hm.pd]
      split_ifs
      · exact hm.modifyPd _
      · exact hm
      · exact hm.attachSource s

theorem srcDisconnectedDebounce (h : Near c p q) (hvconn : p.chip.vconnEnabled = true → c)
    (inp : Input) : Near c (p.srcDisconnectedDebounce inp) (q.srcDisconnectedDebounce inp) := by
  have hm := h.tcpmGetCc hvconn inp.cc
  refine mono ?_ fun _ => trivial
  unfold Port.srcDisconnectedDebounce
  generalize p.tcpmGetCc inp.cc = r at hm ⊢
  generalize q.tcpmGetCc inp.cc = r' at hm ⊢
  have hstate : r'.srcCcState = r.srcCcState := by
    unfold srcCcState
    rw [hm.cc.1, hm.cc.2]
  simp only [hstate]
  cases r.srcCcState with
  | none => exact hm.setState _
  | some s =>
      simp only
      rw [hm.pd]
      split_ifs
      · exact hm.modifyPd _
      · exact hm
      · exact hm.attachSink s
      · exact hm

theorem updateTypecCurr (h : Near c p q) (hvconn : p.chip.vconnEnabled = true → c) (inp : Input) :
    Near c (p.updateTypecCurr inp) (q.updateTypecCurr inp) := by
  have hm := h.tcpmGetCc hvconn inp.cc
  refine mono ?_ fun _ => trivial
  unfold Port.updateTypecCurr
  generalize p.tcpmGetCc inp.cc = r at hm ⊢
  generalize q.tcpmGetCc inp.cc = r' at hm ⊢
  have hwrites : ∀ (w : Port) (limit : Word), ∃ f : Statics → Statics,
      (∀ st, ∃ t ch m, f st =
        { st with typecCurr := t, typecCurrChange := ch, sourceCapMaxIndex := m }) ∧
      (if w.st.typecCurr ≠ limit then
        (if w.st.typecCurrChange = true then w.modifySt fun st => { st with typecCurr := limit }
          else w).modifySt fun st => { st with typecCurrChange := ¬ st.typecCurrChange }
      else w.modifySt fun st => { st with typecCurrChange := false }) = w.modifySt f := by
    intro w limit
    split_ifs
    · exact ⟨_, fun st => ⟨limit, _, _, rfl⟩, rfl⟩
    · exact ⟨_, fun st => ⟨_, _, _, rfl⟩, rfl⟩
    · exact ⟨_, fun st => ⟨_, _, _, rfl⟩, rfl⟩
  obtain ⟨f, hf, hrf⟩ := hwrites r (getTypecCurrentLimit r.pd.polarity r.st.cc1 r.st.cc2)
  obtain ⟨g, hg, hrg⟩ := hwrites r' (getTypecCurrentLimit r'.pd.polarity r'.st.cc1 r'.st.cc2)
  simp only
  rw [hrf, hrg]
  exact hm.assign hf hg

theorem snkDiscovery (h : Near c p q) (hvconn : p.chip.vconnEnabled = true → c) (inp : Input) :
    Near c (p.snkDiscovery inp) (q.snkDiscovery inp) := by
  have harm := h.map fun r x => scribble_armSnkDiscovery r x inp
  have hchip : (p.armSnkDiscovery inp).chip = p.chip := by
    unfold armSnkDiscovery
    split_ifs <;> rfl
  unfold Port.snkDiscovery entering
  rw [h.pd]
  simp only [pdCommIsEnabled, and_true]
  rw [harm.pd]
  split_ifs
  · refine updateTypecCurr (harm.assign (fun st => ⟨0, _, _, rfl⟩) fun st => ⟨0, _, _, rfl⟩) ?_ inp
    rw [modifySt_chip, hchip]
    exact hvconn
  · refine harm.updateTypecCurr ?_ inp
    rw [hchip]
    exact hvconn
  · exact h.updateTypecCurr hvconn inp

theorem checkSourceDetach (h : Near c p q) (hvconn : p.chip.vconnEnabled = true → c) (inp : Input) :
    Near c (p.checkSourceDetach inp) (q.checkSourceDetach inp) := by
  have hm := h.tcpmGetCc hvconn inp.ccTail
  unfold Port.checkSourceDetach
  rw [h.pd]
  split
  · refine mono ?_ fun _ => trivial
    generalize p.tcpmGetCc inp.ccTail = r at hm ⊢
    generalize q.tcpmGetCc inp.ccTail = r' at hm ⊢
    simp only [pdTrySrcEnable, Bool.false_eq_true, if_false]
    rw [hm.pd]
    generalize hw : (if r.pd.polarity = true then r.modifySt _ else r : Port) = w
    generalize hw' : (if r.pd.polarity = true then r'.modifySt _ else r' : Port) = w'
    have hpin : Near True w w' := by
      rw [← hw, ← hw']
      split_ifs
      · exact hm.copyCc
      · exact hm
    rw [hpin.cc.1]
    split
    · exact (hpin.record _).setState _
    · exact hpin
  · exact h

/-! The phases of an iteration. -/

theorem handleSourceCap (h : Near c p q) (payload : List Word) :
    Near c (p.handleSourceCap payload) (q.handleSourceCap payload) := by
  unfold Port.handleSourceCap
  rw [h.pd]
  simp only
  have hnoted := (((h.setFlags { p.pd.flags with previousPdConn := true }).map fun r x =>
    scribble_pdUpdatePdoFlags r x (firstObject payload)).map fun r x =>
      scribble_pdProcessSourceCap r x payload).map (f := fun r => (r.pdSendRequestMsg true).2)
        fun r x => scribble_pdSendRequestMsg r x true
  split
  · exact hnoted.assign (fun _ => ⟨_, _, _, rfl⟩) fun _ => ⟨_, _, _, rfl⟩
  · exact h

theorem handleDataRequest (h : Near c p q) (b : Board) (now : Nat) (m : PdMsg) :
    Near c (p.handleDataRequest b now m) (q.handleDataRequest b now m) := by
  unfold Port.handleDataRequest
  cases DataMsgType.ofField (headerType m.head) with
  | none => exact h
  | some type =>
      cases type with
      | sourceCap => exact h.handleSourceCap m.payload
      | request => exact h.map fun r x => scribble_handleRequestMsg r x b m.payload
      | bist => exact h.map fun r x => scribble_handleBist r x m.payload
      | sinkCap => exact h.map fun r x => scribble_handleSinkCap r x m.payload
      | vendorDef => exact h.map fun r x => scribble_handleVdmRequest r x now m.payload

theorem handleCtrlRequest (h : Near c p q) (b : Board) (now : Nat) (m : PdMsg) :
    Near c (p.handleCtrlRequest b now m) (q.handleCtrlRequest b now m) := by
  unfold Port.handleCtrlRequest
  cases CtrlMsgType.ofField (headerType m.head) with
  | none => exact h
  | some type =>
      cases type with
      | goodCrc => exact h
      | ping => exact h
      | gotoMin => exact h
      | getSourceCap => exact h.map fun r x => scribble_handleGetSourceCap r x b
      | getSinkCap => exact h.map (f := fun r => r.sendSinkCap b) fun _ _ => rfl
      | psRdy => exact h.map scribble_handlePsRdy
      | reject => exact h.map fun r x => scribble_handleRejectWait r x now false
      | wait => exact h.map fun r x => scribble_handleRejectWait r x now true
      | accept => exact h.map scribble_handleAccept
      | softReset => exact h.map scribble_handleSoftReset
      | prSwap => exact h.map scribble_handlePrSwap
      | drSwap => exact h.map scribble_handleDrSwap
      | vconnSwap => exact h.sendControl .reject

theorem receive (h : Near c p q) (b : Board) (inp : Input) :
    Near c (p.receive b inp) (q.receive b inp) := by
  unfold Port.receive
  cases inp.message with
  | none => exact h
  | some m =>
      have hgot := h.record (.received m)
      have hconnected : (q.record (.received m)).pdIsConnected =
          (p.record (.received m)).pdIsConnected := by
        unfold pdIsConnected dualRoleIfElse
        rw [hgot.pd]
      simp only
      unfold handleRequest
      rw [hconnected]
      split_ifs
      · exact hgot.handleDataRequest b _ m
      · exact hgot.handleCtrlRequest b _ m
      · exact hgot

theorem beforeSwitch (h : Near c p q) (b : Board) (inp : Input) :
    Near c (p.beforeSwitch b inp) (q.beforeSwitch b inp) := by
  have hreset : Near c (p.applyReset inp.reset) (q.applyReset inp.reset) := by
    unfold applyReset
    split
    · exact h.map (f := fun r => r.setTask .softReset) fun _ _ => rfl
    · exact h
  have hsent := hreset.map fun r x => scribble_pdVdmSendStateMachine r x (inp.time .vdm)
  unfold Port.beforeSwitch beforeMessage
  simp only [checkBoardAndEvents_eq]
  exact (hsent.receive b inp).map scribble_applySuspend

theorem runState (h : Near c p q) (hvconn : p.chip.vconnEnabled = true → c) (b : Board)
    (inp : Input) : Near c (p.runState b inp) (q.runState b inp) := by
  have harm : ∀ (t : Nat) (s : PdState), Near c (p.armOnEntry t s) (q.armOnEntry t s) :=
    fun t s => h.map fun r x => scribble_armOnEntry r x t s
  have hsend : ∀ (type : CtrlMsgType) (s : PdState),
      Near c (p.sendOnEntry inp type s) (q.sendOnEntry inp type s) :=
    fun type s => h.map fun r x => scribble_sendOnEntry r x inp type s
  unfold Port.runState
  rw [h.pd]
  cases p.pd.taskState with
  | disabled => exact h
  | suspended => exact h.map scribble_suspended
  | snkDisconnected => exact h.snkDisconnected hvconn inp
  | snkDisconnectedDebounce => exact h.snkDisconnectedDebounce hvconn inp
  | snkHardResetRecover => exact h.map fun r x => scribble_snkHardResetRecover r x inp
  | snkDiscovery => exact h.snkDiscovery hvconn inp
  | snkRequested => exact h.map fun r x => scribble_snkRequested r x inp
  | snkTransition => exact harm _ _
  | snkReady => exact h.map scribble_snkReady
  | snkSwapInit => exact hsend _ _
  | snkSwapSnkDisable => exact h.map scribble_snkSwapSnkDisable
  | snkSwapSrcDisable => exact harm _ _
  | snkSwapStandby => exact h.map fun r x => scribble_snkSwapStandby r x inp
  | snkSwapComplete => exact h.map scribble_snkSwapComplete
  | srcDisconnected => exact h.srcDisconnected hvconn inp
  | srcDisconnectedDebounce => exact h.srcDisconnectedDebounce hvconn inp
  | srcHardResetRecover => exact h.map fun r x => scribble_srcHardResetRecover r x inp
  | srcStartup => exact h.map fun r x => scribble_srcStartup r x inp
  | srcDiscovery => exact h.map fun r x => scribble_srcDiscovery r x b inp
  | srcNegociate => exact harm _ _
  | srcAccepted => exact harm _ _
  | srcPowered => exact h.map fun r x => scribble_srcPowered r x inp
  | srcTransition => exact h.map scribble_srcTransition
  | srcReady => exact h.map fun r x => scribble_srcReady r x b
  | srcGetSinkCap => exact harm _ _
  | drSwap =>
      have hback : q.readyReturnState = p.readyReturnState := by
        unfold readyReturnState dualRoleIfElse
        rw [h.pd]
      simp only [Port.drSwap, hback]
      exact hsend _ _
  | srcSwapInit => exact hsend _ _
  | srcSwapSnkDisable => exact harm _ _
  | srcSwapSrcDisable => exact h.map fun r x => scribble_srcSwapSrcDisable r x inp
  | srcSwapStandby => exact h.map fun r x => scribble_srcSwapStandby r x inp
  | softReset => exact h.map fun r x => scribble_softReset r x inp
  | hardResetSend => exact h.map fun r x => scribble_hardResetSend r x inp
  | hardResetExecute => exact h.map fun r x => scribble_hardResetExecute r x inp

theorem finish (h : Near c p q) (hvconn : p.chip.vconnEnabled = true → c) (s : PdState)
    (inp : Input) : Near c (p.finish s inp) (q.finish s inp) := by
  have hchecked := (h.map (f := fun r => r.setLast s) fun _ _ => rfl).map fun r x =>
    scribble_checkTimeout r x (inp.time .tail)
  have hchip : ((p.setLast s).checkTimeout (inp.time .tail)).chip.vconnEnabled =
      p.chip.vconnEnabled := by
    unfold checkTimeout
    split
    · exact setState_vconn _ _
    · rfl
  unfold Port.finish
  simp only [checkSinkDetach_eq]
  generalize (p.setLast s).checkTimeout (inp.time .tail) = r at hchecked hchip ⊢
  generalize (q.setLast s).checkTimeout (inp.time .tail) = r' at hchecked ⊢
  have hconnected : r'.pdIsConnected = r.pdIsConnected := by
    unfold pdIsConnected dualRoleIfElse
    rw [hchecked.pd]
  have hswapping : r'.pdIsPowerSwapping = r.pdIsPowerSwapping := by
    unfold pdIsPowerSwapping
    rw [hchecked.pd]
  rw [hconnected, hswapping]
  split_ifs
  · exact hchecked
  · exact hchecked.checkSourceDetach (by rw [hchip]; exact hvconn) inp

end Near

section

variable (b : Board) (p : Port) (inp : Input)

theorem beforeSwitch_vconn :
    (p.beforeSwitch b inp).chip.vconnEnabled = p.chip.vconnEnabled := by
  have hreceive := (p.beforeMessage inp).control_receive_mem b inp
  rw [control_beforeMessage] at hreceive
  have hreset : (p.control.applyReset inp.reset).vconn = p.chip.vconnEnabled := by
    cases inp.reset <;> rfl
  have hreceived : ((p.beforeMessage inp).receive b inp).control.vconn = p.chip.vconnEnabled := by
    rcases Control.receive_reaction _ hreceive with heq | ⟨_, -, -, hreaction⟩
    · rw [heq, hreset]
    · rw [hreaction.vconn, hreset]
  rw [← hreceived]
  unfold beforeSwitch applySuspend
  split
  · exact setState_vconn _ _
  · rfl

theorem runState_vconn : (p.runState b inp).chip.vconnEnabled = p.chip.vconnEnabled :=
  (p.control.runState_outcome _ (control_runState_mem b p inp)).vconn

theorem finish_vconn (s : PdState) :
    (p.finish s inp).chip.vconnEnabled = p.chip.vconnEnabled := by
  refine p.control.finish_ensures (Q := fun w => w.vconn = p.chip.vconnEnabled) rfl
    (fun _ => Control.setState_vconn _ _) (fun w hw _ _ _ => ?_) _ (control_finish_mem p s inp)
  exact (Control.setState_vconn _ _).trans hw

end

/-- The port with the scratch variables blank; with VCONN on, one of the levels is
not measured and both stay. -/
def live (p : Port) : Port :=
  p.scribble {
    cc1 := if p.chip.vconnEnabled then p.st.cc1 else .open
    cc2 := if p.chip.vconnEnabled then p.st.cc2 else .open
    typecCurr := 0
    typecCurrChange := false
    sourceCapMaxIndex := 0 }

theorem live_eq_iff {p q : Port} : q.live = p.live ↔ Near (p.chip.vconnEnabled = true) p q := by
  constructor
  · intro h
    refine ⟨q.st.scratch, ?_⟩
    obtain ⟨pd, st, chip, log⟩ := p
    obtain ⟨pd', st', chip', log'⟩ := q
    obtain ⟨⟩ := st
    obtain ⟨⟩ := st'
    simp only [live, scribble, modifySt, Port.mk.injEq, Statics.mk.injEq] at h
    obtain ⟨rfl, ⟨h1, h2, rfl, rfl, rfl, -, -, rfl, rfl, rfl, rfl, rfl, rfl, rfl, rfl, -⟩, rfl,
      rfl⟩ := h
    refine ⟨rfl, fun hon => ?_⟩
    rw [if_pos hon, if_pos hon] at h1 h2
    exact ⟨h1, h2⟩
  · rintro ⟨x, rfl, hcc⟩
    unfold live
    by_cases hon : p.chip.vconnEnabled = true
    · obtain ⟨h1, h2⟩ := hcc hon
      simp only [hon, if_true, scribble, modifySt, h1, h2]
    · simp only [hon, scribble, modifySt]
      rfl

namespace Near

variable {p q : Port}

theorem pdRunStateMachine (h : Near (p.chip.vconnEnabled = true) p q) (b : Board)
    (inp : Input) :
    Near ((p.pdRunStateMachine b inp).chip.vconnEnabled = true) (p.pdRunStateMachine b inp)
      (q.pdRunStateMachine b inp) := by
  have hbefore := h.beforeSwitch b inp
  have hran := hbefore.runState (by rw [beforeSwitch_vconn]; exact id) b inp
  have htask : (q.beforeSwitch b inp).pd.taskState = (p.beforeSwitch b inp).pd.taskState := by
    rw [hbefore.pd]
  have hdone := hran.finish (by rw [runState_vconn, beforeSwitch_vconn]; exact id)
    (p.beforeSwitch b inp).pd.taskState inp
  unfold Port.pdRunStateMachine
  simp only
  rw [htask]
  refine hdone.mono ?_
  rw [finish_vconn, runState_vconn, beforeSwitch_vconn]
  exact id

theorem tcpcAlert (h : Near (p.chip.vconnEnabled = true) p q) (irq : Interrupts) (now : Nat) :
    Near ((p.tcpcAlert irq now).chip.vconnEnabled = true) (p.tcpcAlert irq now)
      (q.tcpcAlert irq now) := by
  have hvconn : (p.tcpcAlert irq now).chip.vconnEnabled = p.chip.vconnEnabled := by
    obtain ⟨ok, hok⟩ := p.control.completeTransmissions_eq irq
    refine (congrArg Control.vconn (control_tcpcAlert p irq now)).trans ?_
    unfold Control.alert
    rw [hok]
    split
    · rw [Control.executeHardReset_eq]
      rfl
    · rfl
  rw [hvconn]
  exact h.map fun r x => scribble_tcpcAlert r x irq now

end Near

end Port

end UsbPd
