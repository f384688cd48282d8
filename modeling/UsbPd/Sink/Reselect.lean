import UsbPd.Link.Wire
import UsbPd.Machine.History
import UsbPd.Sink.Progress
import UsbPd.Sink.Request

/-!
# The button selects the next capability

In the pass that finds the button pressed the sketch selects another capability and asks for
a reset. The Soft_Reset goes out; once the source has accepted it and has sent its
capabilities again, the negotiation is about the capability that was selected.
-/

namespace UsbPd

open Machine (Shows)

/-- A Soft_Reset goes out. -/
def Call.sendsSoftReset : Call → Bool
  | .transmit .sop header [] _ => headerType header = CtrlMsgType.softReset.toNat
  | _ => false

namespace Port

/-- A sink that a reset makes send a Soft_Reset. -/
structure Resettable (p : Port) : Prop where
  role : p.pd.powerRole = .sink
  awake : p.pd.reqSuspendState = false
  last : p.pd.lastState ≠ .softReset
  tx : p.pd.txStatus = .success

/-- A sink that waits in `s` on its way back from a Soft_Reset, until `deadline` at least, with
`plans` of what to take of new capabilities. -/
structure Restarts (s : PdState) (deadline : Nat) (plans : List Word → Nat × Nat) (p : Port) :
    Prop where
  role : p.pd.powerRole = .sink
  awake : p.pd.reqSuspendState = false
  task : p.pd.taskState = s
  last : p.pd.lastState = s
  timer : p.pd.timeout = 0 ∨ deadline ≤ p.pd.timeout
  tx : p.pd.txStatus = .success
  plans : p.capsPower = plans

variable {b : Board} {p q : Port} {s : PdState} {deadline : Nat} {plans : List Word → Nat × Nat}

/-! The pass that finds the button pressed. -/

/-- An alert that reports success leaves the sink as it is. -/
theorem Resettable.alert (h : p.Resettable) {irq : Interrupts} (hirq : irq.fine) (now : Nat) :
    (p.tcpcAlert irq now).Resettable ∧ (p.tcpcAlert irq now).capsPower = p.capsPower := by
  obtain ⟨hdoes, htx⟩ := p.does_tcpcAlert_fine hirq now
  refine ⟨⟨?_, ?_, ?_, htx h.tx⟩, capsPower_of_does hdoes (by decide) (by decide)⟩
  · exact (hdoes.keeps .role (by decide)).trans h.role
  · exact (hdoes.keeps .suspend (by decide)).trans h.awake
  · intro hlast
    exact h.last ((hdoes.keeps .last (by decide)).symm.trans hlast)

/-- The tail of an iteration before the deadline. -/
theorem Restarts.finish (h : (p.setLast s).Restarts s deadline plans) {inp : Input}
    (htime : inp.time .tail < deadline) : p.finish s inp = p.setLast s := by
  refine finish_of_sink s h.role fun hout => ?_
  rcases h.timer with hstopped | hlate
  · exact hout.1 hstopped
  · exact absurd htime (Nat.not_lt.2 (Nat.le_trans hlate hout.2))

/-- The reset sends the Soft_Reset. -/
theorem Resettable.reset (h : p.Resettable) {inp : Input} (hreset : inp.reset = true)
    (hmessage : inp.message = none)
    (htime : inp.time .tail < inp.time .switch + pdTSenderResponse) :
    (p.pdRunStateMachine b inp).Restarts .softReset (inp.time .switch + pdTSenderResponse)
        p.capsPower ∧
      Shows p.log (p.pdRunStateMachine b inp).log [Call.sendsSoftReset] := by
  have hdoes := p.does_beforeMessage inp
  have hold : p.log <:+ (p.beforeMessage inp).log := suffix_of_does hdoes
  have hawake : (p.beforeMessage inp).pd.reqSuspendState = false :=
    (hdoes.keeps .suspend (by decide)).trans h.awake
  have hbefore : p.beforeSwitch b inp = p.beforeMessage inp := by
    have hreceive : (p.beforeMessage inp).receive b inp = p.beforeMessage inp := by
      unfold receive
      rw [hmessage]
    unfold beforeSwitch
    rw [hreceive, applySuspend_awake hawake]
  have htask : (p.beforeMessage inp).pd.taskState = .softReset := by
    have hvdm := does_pdVdmSendStateMachine (p.applyReset inp.reset) (inp.time .vdm)
    unfold beforeMessage
    rw [checkBoardAndEvents_eq]
    refine (hvdm.keeps .task (by decide)).trans ?_
    rw [hreset]
    rfl
  generalize p.beforeMessage inp = r at hdoes hold hawake hbefore htask
  have hrole : r.pd.powerRole = .sink := (hdoes.keeps .role (by decide)).trans h.role
  have hlast : r.pd.lastState ≠ .softReset := fun hr =>
    h.last ((hdoes.keeps .last (by decide)).symm.trans hr)
  have htx : r.pd.txStatus = .success := tx_of_does hdoes (by decide) h.tx
  have hplans : r.capsPower = p.capsPower := capsPower_of_does hdoes (by decide) (by decide)
  have hrun : r.runState b inp = (r.resetMsgId.sendControl .softReset).2.setStateTimeout
      (inp.time .switch + pdTSenderResponse) .hardResetSend := by
    have hentering : r.entering = true := by
      unfold entering
      rw [htask]
      simpa using hlast
    have hsent : (r.resetMsgId.sendControl .softReset).1 = 1 := if_pos htx
    unfold runState
    rw [htask]
    simp [softReset, hentering, hsent]
  have hentered : ((r.runState b inp).setLast .softReset).Restarts .softReset
      (inp.time .switch + pdTSenderResponse) p.capsPower := by
    rw [hrun]
    exact ⟨hrole, hawake, htask, rfl, .inr le_rfl, htx, hplans⟩
  have hsends : (Call.transmit .sop (r.resetMsgId.header CtrlMsgType.softReset.toNat 0) []
      (if r.pd.txStatus = .success then 1 else -1)).sendsSoftReset = true :=
    decide_eq_true (headerType_header r.resetMsgId (by decide) 0)
  have hshows : Shows p.log (r.runState b inp).log [Call.sendsSoftReset] := by
    rw [hrun]
    exact ((Shows.start p.log).later (hold.trans (List.suffix_cons Call.msgIdReset _))).cons hsends
  rw [pdRunStateMachine, hbefore, htask, hentered.finish htime]
  exact ⟨hentered, hshows⟩

/-! Waiting. -/

theorem Restarts.of_does (h : p.Restarts s deadline plans) {W : List Part} {K : List CallKind}
    (hdoes : Does W K p q)
    (hW : ∀ x ∈ [Part.role, .suspend, .task, .last, .timer, .srcCaps, .index], x ∉ W)
    (htx : q.pd.txStatus = .success) : q.Restarts s deadline plans where
  role := (hdoes.keeps .role (hW _ (by decide))).trans h.role
  awake := (hdoes.keeps .suspend (hW _ (by decide))).trans h.awake
  task := (hdoes.keeps .task (hW _ (by decide))).trans h.task
  last := (hdoes.keeps .last (hW _ (by decide))).trans h.last
  timer := by
    have htimer : q.pd.timeout = p.pd.timeout :=
      congrArg Prod.fst (hdoes.keeps .timer (hW _ (by decide)))
    rw [htimer]
    exact h.timer
  tx := htx
  plans := (capsPower_of_does hdoes (hW _ (by decide)) (hW _ (by decide))).trans h.plans

/-- Nothing changes while the sink waits for the Accept or for the capabilities. -/
theorem Restarts.still (h : p.Restarts s deadline plans)
    (hs : s = .softReset ∨ s = .snkDiscovery) {e : Event} (he : Still deadline e) :
    (p.step b e).Restarts s deadline plans := by
  cases he with
  | alert hfine now =>
      obtain ⟨hdoes, htx⟩ := p.does_tcpcAlert_fine hfine now
      exact h.of_does hdoes (by decide) (htx h.tx)
  | iterate hstill htime =>
      rename_i inp
      have hbefore := does_beforeSwitch_still b hstill h.awake
      have hr : (p.beforeSwitch b inp).Restarts s deadline plans :=
        h.of_does hbefore (by decide) (tx_of_does hbefore (by decide) h.tx)
      change (((p.beforeSwitch b inp).runState b inp).finish
        (p.beforeSwitch b inp).pd.taskState inp).Restarts s deadline plans
      generalize p.beforeSwitch b inp = r at hr
      have hentering : r.entering = false := by
        unfold entering
        rw [hr.last, hr.task]
        simp
      have hrun : Does [.typecCurr, .chip, .cc] [] r (r.runState b inp) := by
        unfold runState
        rw [hr.task]
        rcases hs with rfl | rfl
        · simp only [softReset, hentering, Bool.false_eq_true, if_false]
          exact r.does_nothing _ _
        · simp only [snkDiscovery, hentering, Bool.false_eq_true, false_and, if_false]
          exact r.does_updateTypecCurr inp
      have hran : (r.runState b inp).Restarts s deadline plans :=
        hr.of_does hrun (by decide) (tx_of_does hrun (by decide) hr.tx)
      have hend : ((r.runState b inp).setLast s).Restarts s deadline plans :=
        { hran with last := rfl }
      rw [hr.task, hend.finish htime]
      exact hend

/-! The answers of the source. -/

/-- A restarting sink is connected. -/
theorem Restarts.connected (h : p.Restarts s deadline plans)
    (hs : s = .softReset ∨ s = .snkDiscovery) : p.pdIsConnected = true := by
  unfold pdIsConnected dualRoleIfElse
  rw [h.task, h.role]
  rcases hs with rfl | rfl
  · rfl
  · rfl

/-- The timer of `PD_STATE_SNK_DISCOVERY` waits for the capabilities at least. -/
theorem timeout_armSnkDiscovery (hstopped : p.pd.timeout = 0) (inp : Input) :
    (p.armSnkDiscovery inp).pd.timeout = 0 ∨
      inp.time .switch + pdTSinkWaitCap ≤ (p.armSnkDiscovery inp).pd.timeout := by
  unfold armSnkDiscovery
  split_ifs
  · exact .inr le_rfl
  · exact .inr le_rfl
  · exact .inr (Nat.add_le_add_left (by decide) _)
  · exact .inl hstopped

/-- On entry the timer of the state is armed. -/
theorem timeout_snkDiscovery (hentering : p.entering = true) (inp : Input) :
    (p.snkDiscovery inp).pd.timeout = (p.armSnkDiscovery inp).pd.timeout := by
  have hupdate : ∀ q : Port, (q.updateTypecCurr inp).pd.timeout = q.pd.timeout := fun q =>
    congrArg Prod.fst ((q.does_updateTypecCurr inp).keeps .timer (by decide))
  simp only [snkDiscovery, hentering, pdCommIsEnabled, and_self, if_true]
  rw [hupdate]
  split_ifs
  · rfl
  · rfl

/-- The iteration that finds the Accept of the Soft_Reset. -/
theorem Restarts.accept (h : p.Restarts .softReset deadline plans) {inp : Input} {m : PdMsg}
    (hreset : inp.reset = false) (hmessage : inp.message = some m)
    (haccept : m.isCtrl .accept = true)
    (htime : inp.time .tail < inp.time .switch + pdTSinkWaitCap) :
    (p.pdRunStateMachine b inp).Restarts .snkDiscovery (inp.time .switch + pdTSinkWaitCap)
      plans := by
  have hdoes := p.does_dispatching hreset m
  have hbefore := beforeSwitch_message (p := p) b hmessage h.awake
  have hr := h.of_does hdoes (by decide) (tx_of_does hdoes (by decide) h.tx)
  generalize (p.beforeMessage inp).record (.received m) = r at hbefore hr
  rw [Earned.handleRequest_accept b _ haccept, if_pos (hr.connected (.inl rfl))] at hbefore
  have hhandled : r.handleAccept =
      ((r.setFlags { r.pd.flags with vbusNeverLow := false }).resetMsgId).setState
        .snkDiscovery := by
    unfold handleAccept executeSoftReset dualRoleIfElse
    rw [if_pos hr.task]
    simp [hr.role]
  generalize hq : r.handleAccept = q at hbefore hhandled
  have hpd : q.pd = { r.pd with
      flags := { r.pd.flags with vbusNeverLow := false }, msgId := 0
      taskState := .snkDiscovery, timeout := 0, timeoutState := .disabled } := by
    rw [hhandled]
    simp
  have hplans : q.capsPower = plans := by
    rw [hhandled]
    unfold capsPower
    simp only [setState_st]
    exact hr.plans
  have hentering : q.entering = true := by
    unfold entering
    rw [hpd]
    simp [hr.last]
  have hrun : Does [.timer, .typecCurr, .chip, .cc] [] q (q.runState b inp) := by
    unfold runState
    rw [show q.pd.taskState = .snkDiscovery by rw [hpd]]
    exact (q.does_snkDiscovery inp).mono (by decide)
  have htimer : (q.runState b inp).pd.timeout = 0 ∨
      inp.time .switch + pdTSinkWaitCap ≤ (q.runState b inp).pd.timeout := by
    have harm := timeout_armSnkDiscovery (show q.pd.timeout = 0 by rw [hpd]) inp
    have hkept : (q.runState b inp).pd.timeout = (q.armSnkDiscovery inp).pd.timeout := by
      unfold runState
      rw [show q.pd.taskState = .snkDiscovery by rw [hpd]]
      exact timeout_snkDiscovery hentering inp
    rw [hkept]
    exact harm
  have hran : ((q.runState b inp).setLast .snkDiscovery).Restarts .snkDiscovery
      (inp.time .switch + pdTSinkWaitCap) plans := by
    refine ⟨?_, ?_, ?_, rfl, htimer, ?_, ?_⟩
    · refine (hrun.keeps .role (by decide)).trans ?_
      change q.pd.powerRole = .sink
      rw [hpd]
      exact hr.role
    · refine (hrun.keeps .suspend (by decide)).trans ?_
      change q.pd.reqSuspendState = false
      rw [hpd]
      exact hr.awake
    · refine (hrun.keeps .task (by decide)).trans ?_
      change q.pd.taskState = .snkDiscovery
      rw [hpd]
    · change (q.runState b inp).pd.txStatus = .success
      refine tx_of_does hrun (by decide) ?_
      rw [hpd]
      exact hr.tx
    · exact (capsPower_of_does hrun (by decide) (by decide)).trans hplans
  rw [pdRunStateMachine, hbefore, show q.pd.taskState = .snkDiscovery by rw [hpd],
    hran.finish htime]
  exact hran

theorem Restarts.listens (h : p.Restarts .snkDiscovery deadline plans) : p.Listens where
  role := h.role
  awake := h.awake
  task := h.task
  last := by
    rw [h.last]
    decide
  tx := h.tx

/-! The whole renegotiation. -/

/-- The pass that finds the button pressed selects and sends the Soft_Reset. -/
theorem Resettable.loop (h : p.Resettable) {irq : Option Interrupts} (hirq : ∀ i ∈ irq, i.fine)
    (now : Nat) {inp : Input} (hmessage : inp.message = none)
    (htime : inp.time .tail < inp.time .switch + pdTSenderResponse) :
    (Machine.run (step b) p (loop true irq now inp)).Restarts .softReset
        (inp.time .switch + pdTSenderResponse) p.pressButton.capsPower ∧
      Shows p.log (Machine.run (step b) p (loop true irq now inp)).log [Call.sendsSoftReset] := by
  have hpressed : p.pressButton.Resettable := ⟨h.role, h.awake, h.last, h.tx⟩
  have hasks : ∀ (asked : Input) (q : Port), asked.reset = true → asked.message = none →
      asked.time = inp.time → q.Resettable → p.log <:+ q.log →
      (q.pdRunStateMachine b asked).Restarts .softReset
          (inp.time .switch + pdTSenderResponse) q.capsPower ∧
        Shows p.log (q.pdRunStateMachine b asked).log [Call.sendsSoftReset] := by
    intro asked q hreset hnone hclock hq hold
    rw [← hclock] at htime ⊢
    obtain ⟨hrestarts, hshows⟩ := hq.reset (b := b) hreset hnone htime
    exact ⟨hrestarts, hshows.earlier hold⟩
  cases irq with
  | none =>
      exact hasks { inp with reset := true } p.pressButton rfl hmessage rfl hpressed
        List.suffix_rfl
  | some irq =>
      obtain ⟨halert, hplans⟩ := hpressed.alert (hirq irq rfl) now
      have hold : p.pressButton.log <:+ (p.pressButton.tcpcAlert irq now).log :=
        p.pressButton.suffix_step b (.alert irq now)
      rw [← hplans]
      exact hasks { inp with reset := true } (p.pressButton.tcpcAlert irq now) rfl hmessage rfl
        halert hold

/-- The stages of the way back, up to the Request. -/
theorem Restarts.requests (h : p.Restarts .softReset deadline plans) {s₁ s₂ : Stage}
    {accept caps : PdMsg} (haccept : accept.isCtrl .accept = true)
    (hcaps : caps.isData .sourceCap = true) (h₁ : s₁.Hears deadline accept)
    (hprompt₁ : s₁.Prompt pdTSinkWaitCap)
    (h₂ : s₂.Hears (s₁.inp.time .switch + pdTSinkWaitCap) caps)
    (hprompt₂ : s₂.Prompt pdTSenderResponse) :
    (Machine.run (step b) p (s₁.events ++ s₂.events)).Expects .snkRequested
      (s₂.inp.time .switch + pdTSenderResponse) (plans caps.payload) := by
  have haccepts : ∀ (q : Port) (e : Event), q.Restarts .softReset deadline plans →
      e = .iterate s₁.inp → (q.step b e).Restarts .snkDiscovery
        (s₁.inp.time .switch + pdTSinkWaitCap) plans := by
    rintro q e hq rfl
    exact hq.accept h₁.reset h₁.message haccept hprompt₁
  have hhears : ∀ (q : Port) (e : Event),
      q.Restarts .snkDiscovery (s₁.inp.time .switch + pdTSinkWaitCap) plans →
      e = .iterate s₂.inp → (q.step b e).Expects .snkRequested
        (s₂.inp.time .switch + pdTSenderResponse) (plans caps.payload) := by
    rintro q e hq rfl
    rw [← hq.plans]
    exact hq.listens.sourceCap h₂.reset h₂.message hcaps hprompt₂
  have hdiscovery := Machine.run_moves (fun _ _ hq he => Restarts.still hq (.inl rfl) he) haccepts
    h h₁.still rfl
  rw [Machine.run_append]
  exact Machine.run_moves (fun _ _ hq he => Restarts.still hq (.inr rfl) he) hhears hdiscovery
    h₂.still rfl

/-- The button in a sink sends Soft_Reset. Then the Accept of the Soft_Reset, the capabilities of
the source, its Accept and its PS_RDY, with still events between them, lead to a contract about
the capability that the button selected. -/
theorem reselected_run (b : Board) {p : Port} (h : p.Resettable) {irq : Option Interrupts}
    (hirq : ∀ i ∈ irq, i.fine) (now : Nat) {inp : Input} (hmessage : inp.message = none)
    (hprompt : inp.time .tail < inp.time .switch + pdTSenderResponse) {s₁ s₂ s₃ s₄ : Stage}
    {accept₁ caps accept₂ psRdy : PdMsg} (haccept₁ : accept₁.isCtrl .accept = true)
    (hcaps : caps.isData .sourceCap = true) (haccept₂ : accept₂.isCtrl .accept = true)
    (hpsRdy : psRdy.isCtrl .psRdy = true)
    (h₁ : s₁.Hears (inp.time .switch + pdTSenderResponse) accept₁)
    (hprompt₁ : s₁.Prompt pdTSinkWaitCap)
    (h₂ : s₂.Hears (s₁.inp.time .switch + pdTSinkWaitCap) caps)
    (hprompt₂ : s₂.Prompt pdTSenderResponse)
    (h₃ : s₃.Hears (s₂.inp.time .switch + pdTSenderResponse) accept₂)
    (hprompt₃ : s₃.Prompt pdTPsTransition)
    (h₄ : s₄.Hears (s₃.inp.time .switch + pdTPsTransition) psRdy) :
    Shows p.log (Machine.run (step b) p (loop true irq now inp)).log [Call.sendsSoftReset] ∧
      (Machine.run (step b) p (loop true irq now inp ++ ((s₁.events ++ s₂.events) ++
        (s₃.events ++ s₄.events)))).Agreed (p.pressButton.capsPower caps.payload) := by
  obtain ⟨hreset, hshows⟩ := h.loop (b := b) hirq now hmessage hprompt
  refine ⟨hshows, ?_⟩
  rw [Machine.run_append, Machine.run_append]
  exact (hreset.requests haccept₁ hcaps h₁ hprompt₁ h₂ hprompt₂).agrees haccept₂ hpsRdy h₃
    hprompt₃ h₄

/-- Both offers of a source. -/
def twoCaps : PdMsg := dataMsg .sourceCap [fiveVolts, nineVolts] two_objects_lt

/-- A sink that has agreed on the first of two offers. -/
def readyOnFirst : List Event :=
  attachAsSink ++ [iterateAt 200000 rpOnCc1 (some twoCaps),
    iterateAt 210000 rpOnCc1 (some (ctrlMsg .accept)),
    iterateAt 220000 rpOnCc1 (some (ctrlMsg .psRdy))]

/-- The button takes it to the second one. -/
theorem reselected_nineVolts :
    Shows (after .shipped readyOnFirst).log (Machine.run (step .shipped)
      (after .shipped readyOnFirst) (loop true none 230000 (inputAt 230000 rpOnCc1 none))).log
      [Call.sendsSoftReset] ∧
    (Machine.run (step .shipped) (after .shipped readyOnFirst)
      (loop true none 230000 (inputAt 230000 rpOnCc1 none) ++
        ((Stage.events ⟨[.iterate (inputAt 234000 rpOnCc1 none)],
            inputAt 240000 rpOnCc1 (some (ctrlMsg .accept))⟩ ++
          Stage.events ⟨[], inputAt 250000 rpOnCc1 (some twoCaps)⟩) ++
        (Stage.events ⟨[], inputAt 260000 rpOnCc1 (some (ctrlMsg .accept))⟩ ++
          Stage.events ⟨[], inputAt 270000 rpOnCc1 (some (ctrlMsg .psRdy))⟩)))).Agreed
      (2000, 9000) := by
  have hsink : (after .shipped readyOnFirst).Resettable := by
    constructor <;> decide +kernel
  have hplan : (after .shipped readyOnFirst).pressButton.capsPower twoCaps.payload =
      (2000, 9000) := by
    decide +kernel
  have haccept : (ctrlMsg .accept).isCtrl .accept = true := by decide
  have hpsRdy : (ctrlMsg .psRdy).isCtrl .psRdy = true := by decide
  rw [← hplan]
  refine reselected_run .shipped hsink (by simp) 230000 rfl (by decide) haccept
    (by decide) haccept hpsRdy ⟨fun e he => ?_, rfl, rfl⟩ (by decide)
    ⟨List.forall_mem_nil _, rfl, rfl⟩ (by decide) ⟨List.forall_mem_nil _, rfl, rfl⟩ (by decide)
    ⟨List.forall_mem_nil _, rfl, rfl⟩
  rw [List.mem_singleton.1 he]
  exact .iterate ⟨rfl, rfl⟩ (by decide)

end Port

end UsbPd
