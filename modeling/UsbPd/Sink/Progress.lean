import UsbPd.Machine.Stage
import UsbPd.Sink.Limit
import UsbPd.Sink.Wait
import UsbPd.System.Still

/-!
# A negotiation that comes to its end

A sink in `PD_STATE_SNK_DISCOVERY` that hears the capabilities of a source, and then its
Accept and its PS_RDY before the timers run out, ends in `PD_STATE_SNK_READY` with an
explicit contract and draws what the selected capability offers.
-/

namespace UsbPd

namespace Port

/-- A sink that waits for capabilities. -/
structure Listens (p : Port) : Prop where
  role : p.pd.powerRole = .sink
  awake : p.pd.reqSuspendState = false
  task : p.pd.taskState = .snkDiscovery
  last : p.pd.lastState ≠ .snkRequested
  tx : p.pd.txStatus = .success

/-- A sink that waits in `s` for an answer until `deadline`, with a plan of what to draw. -/
structure Expects (s : PdState) (deadline : Nat) (plan : Nat × Nat) (p : Port) : Prop where
  role : p.pd.powerRole = .sink
  awake : p.pd.reqSuspendState = false
  task : p.pd.taskState = s
  last : p.pd.lastState = s
  timer : p.pd.timeout = deadline
  tx : p.pd.txStatus = .success
  calm : p.pd.newPowerRequest = false
  plan : (p.pd.currLimit, p.pd.supplyVoltage) = plan
  contract : s = .snkTransition → p.pd.flags.explicitContract = true

/-- The negotiation is over. -/
structure Agreed (plan : Nat × Nat) (p : Port) : Prop where
  task : p.pd.taskState = .snkReady
  contract : p.pd.flags.explicitContract = true
  limit : lastLimit p.log = plan

/-- The parts that an expectation is about, other than the status of the transmissions. -/
def expectedParts : List Part :=
  [.role, .suspend, .task, .last, .timer, .newPowerRequest, .power, .contract]

variable {b : Board} {p q : Port} {s : PdState} {deadline : Nat} {plan : Nat × Nat}

theorem Expects.of_does (h : p.Expects s deadline plan) {W : List Part} {K : List CallKind}
    (hdoes : Does W K p q) (hW : ∀ x ∈ expectedParts, x ∉ W) (htx : q.pd.txStatus = .success) :
    q.Expects s deadline plan where
  role := (hdoes.keeps .role (hW _ (by decide))).trans h.role
  awake := (hdoes.keeps .suspend (hW _ (by decide))).trans h.awake
  task := (hdoes.keeps .task (hW _ (by decide))).trans h.task
  last := (hdoes.keeps .last (hW _ (by decide))).trans h.last
  timer := (congrArg Prod.fst (hdoes.keeps .timer (hW _ (by decide)))).trans h.timer
  tx := htx
  calm := (hdoes.keeps .newPowerRequest (hW _ (by decide))).trans h.calm
  plan := by
    have hpower := hdoes.keeps .power (hW _ (by decide))
    rw [← h.plan]
    exact congrArg (fun power : Nat × Nat × Nat => (power.1, power.2.1)) hpower
  contract := fun hs => (hdoes.keeps .contract (hW _ (by decide))).trans (h.contract hs)

/-- What the port takes of new capabilities is a matter of the table and the index. -/
theorem capsPower_of_does {W : List Part} {K : List CallKind} (hdoes : Does W K p q)
    (hcaps : .srcCaps ∉ W) (hindex : .index ∉ W) : q.capsPower = p.capsPower := by
  have hstored : q.st.srcCaps = p.st.srcCaps := congrArg Prod.fst (hdoes.keeps .srcCaps hcaps)
  have hselected : q.st.sourceCapCurrentIndex = p.st.sourceCapCurrentIndex :=
    hdoes.keeps .index hindex
  funext payload
  unfold capsPower
  rw [hstored, hselected]

/-- The status of the transmissions is kept with the parts of the link. -/
theorem tx_of_does {W : List Part} {K : List CallKind} (hdoes : Does W K p q) (hW : .link ∉ W)
    (htx : p.pd.txStatus = .success) : q.pd.txStatus = .success :=
  (congrArg Prod.snd (hdoes.keeps .link hW)).trans htx

/-- The tail of an iteration before the deadline. -/
theorem Expects.finish (h : p.Expects s deadline plan) {inp : Input}
    (htime : inp.time .tail < deadline) : p.finish s inp = p.setLast s := by
  refine finish_of_sink s h.role fun hout => ?_
  have hlate := hout.2
  rw [h.timer] at hlate
  exact absurd htime (Nat.not_lt.2 hlate)

/-- Nothing changes while the sink waits. -/
theorem Expects.still (h : p.Expects s deadline plan) (hs : s = .snkRequested ∨ s = .snkTransition)
    {e : Event} (he : Still deadline e) : (p.step b e).Expects s deadline plan := by
  cases he with
  | alert hfine now =>
      obtain ⟨hdoes, htx⟩ := p.does_tcpcAlert_fine hfine now
      exact h.of_does hdoes (by decide) (htx h.tx)
  | iterate hstill htime =>
      rename_i inp
      have hdoes := does_beforeSwitch_still b hstill h.awake
      have hbefore : (p.beforeSwitch b inp).Expects s deadline plan :=
        h.of_does hdoes (by decide) (tx_of_does hdoes (by decide) h.tx)
      have hrun : (p.beforeSwitch b inp).runState b inp = p.beforeSwitch b inp := by
        have hentering : (p.beforeSwitch b inp).entering = false := by
          unfold entering
          rw [hbefore.last, hbefore.task]
          simp
        unfold runState
        rw [hbefore.task]
        rcases hs with rfl | rfl
        · simp [snkRequested, hentering]
        · simp [snkTransition, armOnEntry, hentering]
      change (p.pdRunStateMachine b inp).Expects s deadline plan
      rw [pdRunStateMachine, hrun, hbefore.task, hbefore.finish htime]
      exact { hbefore with last := rfl }

/-! The capabilities. -/

/-- A Request that goes out. -/
theorem pdSendRequestMsg_pd (htx : p.pd.txStatus = .success) :
    (p.pdSendRequestMsg true).2.pd = { p.pd with
      newPowerRequest := false
      currLimit := (pdExtractPdoPower (p.st.srcCap p.st.sourceCapCurrentIndex)).1
      supplyVoltage := (pdExtractPdoPower (p.st.srcCap p.st.sourceCapCurrentIndex)).2
      prevRequestMv := (pdExtractPdoPower (p.st.srcCap p.st.sourceCapCurrentIndex)).2
      taskState := .snkRequested, timeout := 0, timeoutState := .disabled } := by
  have hsent : ∀ ma mv rdo,
      ((p.clearNewPowerRequest.setRequestedPower ma mv).sendRequest rdo).1 = 1 :=
    fun _ _ _ => if_pos htx
  rw [pdSendRequestMsg_eq]
  unfold sendBuiltRequest
  simp only [Bool.true_eq_false, false_and, if_false]
  rw [hsent, if_neg (by decide)]
  simp [requestObject]

theorem offered_pd (p : Port) (payload : List Word) : ∃ flags,
    (p.offered payload).pd = { p.pd with flags := flags } := by
  unfold offered pdUpdatePdoFlags
  split_ifs
  · exact ⟨_, rfl⟩
  · exact ⟨_, rfl⟩

theorem offered_power (p : Port) (payload : List Word) :
    pdExtractPdoPower ((p.offered payload).st.srcCap (p.offered payload).st.sourceCapCurrentIndex) =
      p.capsPower payload := by
  unfold offered pdUpdatePdoFlags
  split_ifs <;> rfl

/-- The answer to capabilities. -/
theorem handleSourceCap_pd (htask : p.pd.taskState = .snkDiscovery)
    (htx : p.pd.txStatus = .success) (payload : List Word) : ∃ flags,
    (p.handleSourceCap payload).pd = { p.pd with
      flags := flags
      newPowerRequest := false
      currLimit := (p.capsPower payload).1
      supplyVoltage := (p.capsPower payload).2
      prevRequestMv := (p.capsPower payload).2
      taskState := .snkRequested, timeout := 0, timeoutState := .disabled } := by
  obtain ⟨flags, hflags⟩ := p.offered_pd payload
  have hoffered : (p.offered payload).pd.txStatus = .success := by
    rw [hflags]
    exact htx
  have hhandled : p.handleSourceCap payload =
      ((p.offered payload).pdSendRequestMsg true).2.pdProcessSourceCapCallback payload.length := by
    unfold handleSourceCap
    rw [if_pos (.inl htask)]
    rfl
  have hpower := p.offered_power payload
  refine ⟨flags, ?_⟩
  rw [hhandled]
  change ((p.offered payload).pdSendRequestMsg true).2.pd = _
  rw [pdSendRequestMsg_pd hoffered, hpower, hflags]

/-- The iteration that finds capabilities. -/
theorem Listens.sourceCap (h : p.Listens) {inp : Input} {m : PdMsg} (hreset : inp.reset = false)
    (hmessage : inp.message = some m) (hcaps : m.isData .sourceCap = true)
    (htime : inp.time .tail < inp.time .switch + pdTSenderResponse) :
    (p.pdRunStateMachine b inp).Expects .snkRequested (inp.time .switch + pdTSenderResponse)
      (p.capsPower m.payload) := by
  have hdoes := p.does_dispatching hreset m
  have hbefore := beforeSwitch_message (p := p) b hmessage h.awake
  generalize hr : (p.beforeMessage inp).record (.received m) = r at hdoes hbefore
  have htask : r.pd.taskState = .snkDiscovery := (hdoes.keeps .task (by decide)).trans h.task
  have htx : r.pd.txStatus = .success := tx_of_does hdoes (by decide) h.tx
  have hrole : r.pd.powerRole = .sink := (hdoes.keeps .role (by decide)).trans h.role
  have hawake : r.pd.reqSuspendState = false :=
    (hdoes.keeps .suspend (by decide)).trans h.awake
  have hlast : r.pd.lastState ≠ .snkRequested := fun heq =>
    h.last ((hdoes.keeps .last (by decide)).symm.trans heq)
  have hpower : r.capsPower = p.capsPower := capsPower_of_does hdoes (by decide) (by decide)
  have hconn : r.pdIsConnected = true := by
    unfold pdIsConnected dualRoleIfElse
    rw [htask, hrole]
    rfl
  rw [handleRequest_sourceCap b r _ hcaps, if_pos hconn] at hbefore
  obtain ⟨flags, hpd⟩ := handleSourceCap_pd htask htx m.payload
  generalize r.handleSourceCap m.payload = t at hbefore hpd
  have hentering : t.entering = true := by
    unfold entering
    rw [hpd]
    simpa using hlast
  have hrun : t.runState b inp = (t.modifySt fun st => { st with
      hardResetCount := 0 }).setStateTimeout (inp.time .switch + pdTSenderResponse)
        .hardResetSend := by
    unfold runState
    rw [show t.pd.taskState = .snkRequested by rw [hpd]]
    exact if_pos hentering
  have hentered : ((t.runState b inp).setLast .snkRequested).Expects .snkRequested
      (inp.time .switch + pdTSenderResponse) (p.capsPower m.payload) := by
    rw [hrun, ← hpower]
    constructor <;> simp [hpd, hrole, hawake, htx]
  have htail : (t.runState b inp).finish .snkRequested inp =
      (t.runState b inp).setLast .snkRequested := by
    refine finish_of_sink _ ?_ fun hout => ?_
    · exact hentered.role
    · have hlate := hout.2
      rw [hrun] at hlate
      exact absurd htime (Nat.not_lt.2 hlate)
  rw [pdRunStateMachine, hbefore, show t.pd.taskState = .snkRequested by rw [hpd], htail]
  exact hentered

/-! The answers of the source. -/

/-- A waiting sink is connected. -/
theorem Expects.connected (h : p.Expects s deadline plan)
    (hs : s = .snkRequested ∨ s = .snkTransition) : p.pdIsConnected = true := by
  unfold pdIsConnected dualRoleIfElse
  rw [h.task, h.role]
  rcases hs with rfl | rfl
  · rfl
  · rfl

/-- The sink as it hands over an answer. -/
theorem Expects.dispatching (h : p.Expects s deadline plan) {inp : Input} (m : PdMsg)
    (hreset : inp.reset = false) :
    ((p.beforeMessage inp).record (.received m)).Expects s deadline plan := by
  have hdoes := p.does_dispatching hreset m
  exact h.of_does hdoes (by decide) (tx_of_does hdoes (by decide) h.tx)

/-- The handler of an Accept. -/
theorem Expects.handleAccept (h : p.Expects .snkRequested deadline plan) :
    p.handleAccept = ((p.record .contractAgreed).setFlags { p.pd.flags with
      explicitContract := true }).setState .snkTransition := by
  unfold Port.handleAccept
  simp [h.task]

/-- The iteration that finds an Accept. -/
theorem Expects.accept (h : p.Expects .snkRequested deadline plan) {inp : Input} {m : PdMsg}
    (hreset : inp.reset = false) (hmessage : inp.message = some m)
    (haccept : m.isCtrl .accept = true)
    (htime : inp.time .tail < inp.time .switch + pdTPsTransition) :
    (p.pdRunStateMachine b inp).Expects .snkTransition (inp.time .switch + pdTPsTransition)
      plan := by
  have hbefore := beforeSwitch_message (p := p) b hmessage h.awake
  have hr := h.dispatching m hreset
  generalize (p.beforeMessage inp).record (.received m) = r at hbefore hr
  rw [Earned.handleRequest_accept b _ haccept, if_pos (hr.connected (.inl rfl))] at hbefore
  have hhandled := hr.handleAccept
  have hrun : r.handleAccept.runState b inp =
      r.handleAccept.setStateTimeout (inp.time .switch + pdTPsTransition) .hardResetSend := by
    have hentering : r.handleAccept.entering = true := by
      unfold entering
      rw [hhandled]
      simp [hr.last]
    unfold runState
    rw [show r.handleAccept.pd.taskState = .snkTransition by rw [hhandled]; simp]
    exact if_pos hentering
  have hentered : ((r.handleAccept.runState b inp).setLast .snkTransition).Expects .snkTransition
      (inp.time .switch + pdTPsTransition) plan := by
    rw [hrun, hhandled]
    constructor <;> simp [hr.role, hr.awake, hr.tx, hr.calm, hr.plan]
  have htail : (r.handleAccept.runState b inp).finish .snkTransition inp =
      (r.handleAccept.runState b inp).setLast .snkTransition := by
    refine finish_of_sink _ hentered.role fun hout => ?_
    have hlate := hout.2
    rw [hrun] at hlate
    exact absurd htime (Nat.not_lt.2 hlate)
  rw [pdRunStateMachine, hbefore,
    show r.handleAccept.pd.taskState = .snkTransition by rw [hhandled]; simp, htail]
  exact hentered

/-- `PD_STATE_SNK_READY` keeps an agreement while nobody asks for power. -/
theorem Agreed.snkReady (h : p.Agreed plan) (hcalm : p.pd.newPowerRequest = false) :
    p.snkReady.Agreed plan ∧ Does [.roleChecks, .vdm, .identity] [] p p.snkReady := by
  have hnone : p.Agreed plan ∧ Does [.roleChecks, .vdm, .identity] [] p p :=
    ⟨h, p.does_nothing _ _⟩
  unfold Port.snkReady
  rw [if_neg (by rw [hcalm]; decide : ¬p.pd.newPowerRequest = true)]
  split_ifs
  · exact hnone
  · cases hchecks : p.readyChecks with
    | none => exact hnone
    | some r =>
        have hdoes := p.does_readyChecks hchecks
        refine ⟨⟨?_, ?_, ?_⟩, hdoes⟩
        · exact (hdoes.keeps .task (by decide)).trans h.task
        · exact (hdoes.keeps .contract (by decide)).trans h.contract
        · exact (lastLimit_eq_of_does hdoes (by decide)).trans h.limit

/-- The iteration that finds a PS_RDY. -/
theorem Expects.psRdy (h : p.Expects .snkTransition deadline plan) {inp : Input} {m : PdMsg}
    (hreset : inp.reset = false) (hmessage : inp.message = some m)
    (hready : m.isCtrl .psRdy = true) : (p.pdRunStateMachine b inp).Agreed plan := by
  have hbefore := beforeSwitch_message (p := p) b hmessage h.awake
  have hr := h.dispatching m hreset
  generalize (p.beforeMessage inp).record (.received m) = r at hbefore hr
  rw [handleRequest_psRdy b _ _ hready, if_pos (hr.connected (.inr rfl))] at hbefore
  have hhandled : r.handlePsRdy = (r.setState .snkReady).pdSetInputCurrentLimit
      r.pd.currLimit r.pd.supplyVoltage := by
    unfold handlePsRdy
    simp [hr.task, hr.role]
  have hagreed : r.handlePsRdy.Agreed plan := by
    rw [hhandled, ← hr.plan]
    exact ⟨by simp, by simp [hr.contract rfl], rfl⟩
  have hcalm : r.handlePsRdy.pd.newPowerRequest = false := by
    rw [hhandled]
    simp [hr.calm]
  obtain ⟨hran, hdoes⟩ := hagreed.snkReady hcalm
  have hrun : r.handlePsRdy.runState b inp = r.handlePsRdy.snkReady := by
    unfold runState
    rw [hagreed.task]
  have hrole : r.handlePsRdy.snkReady.pd.powerRole = .sink := by
    refine (hdoes.keeps .role (by decide)).trans ?_
    change r.handlePsRdy.pd.powerRole = .sink
    rw [hhandled]
    simp [hr.role]
  have hstopped : r.handlePsRdy.snkReady.pd.timeout = 0 := by
    refine (congrArg Prod.fst (hdoes.keeps .timer (by decide))).trans ?_
    change r.handlePsRdy.pd.timeout = 0
    rw [hhandled]
    simp
  rw [pdRunStateMachine, hbefore, hrun, finish_of_sink _ hrole fun hout => hout.1 hstopped]
  exact ⟨hran.task, hran.contract, hran.limit⟩

/-! The whole negotiation. -/

/-- Accept and PS_RDY, with still events before them. -/
theorem Expects.agrees (h : p.Expects .snkRequested deadline plan) {s₁ s₂ : Stage}
    {accept psRdy : PdMsg} (haccept : accept.isCtrl .accept = true)
    (hpsRdy : psRdy.isCtrl .psRdy = true) (h₁ : s₁.Hears deadline accept)
    (hprompt₁ : s₁.Prompt pdTPsTransition)
    (h₂ : s₂.Hears (s₁.inp.time .switch + pdTPsTransition) psRdy) :
    (Machine.run (step b) p (s₁.events ++ s₂.events)).Agreed plan := by
  have haccepts : ∀ (q : Port) (e : Event), q.Expects .snkRequested deadline plan →
      e = .iterate s₁.inp → (q.step b e).Expects .snkTransition
        (s₁.inp.time .switch + pdTPsTransition) plan := by
    rintro q e hq rfl
    exact hq.accept h₁.reset h₁.message haccept hprompt₁
  have hends : ∀ (q : Port) (e : Event),
      q.Expects .snkTransition (s₁.inp.time .switch + pdTPsTransition) plan →
      e = .iterate s₂.inp → (q.step b e).Agreed plan := by
    rintro q e hq rfl
    exact hq.psRdy h₂.reset h₂.message hpsRdy
  have htransition := Machine.run_moves (fun _ _ hq he => Expects.still hq (.inl rfl) he) haccepts
    h h₁.still rfl
  rw [Machine.run_append]
  exact Machine.run_moves (fun _ _ hq he => Expects.still hq (.inr rfl) he) hends
    htransition h₂.still rfl

/-- Capabilities, Accept and PS_RDY, with any number of still events before the two answers,
lead to a contract about the selected capability. -/
theorem agreed_run (b : Board) {p : Port} (h : p.Listens) {caps accept psRdy : PdMsg}
    (hcaps : caps.isData .sourceCap = true) (haccept : accept.isCtrl .accept = true)
    (hpsRdy : psRdy.isCtrl .psRdy = true) {inp : Input} {s₁ s₂ : Stage}
    (hreset : inp.reset = false) (hmessage : inp.message = some caps)
    (hprompt : inp.time .tail < inp.time .switch + pdTSenderResponse)
    (h₁ : s₁.Hears (inp.time .switch + pdTSenderResponse) accept)
    (hprompt₁ : s₁.Prompt pdTPsTransition)
    (h₂ : s₂.Hears (s₁.inp.time .switch + pdTPsTransition) psRdy) :
    (Machine.run (step b) p (.iterate inp :: (s₁.events ++ s₂.events))).Agreed
      (p.capsPower caps.payload) :=
  (h.sourceCap hreset hmessage hcaps hprompt).agrees haccept hpsRdy h₁ hprompt₁ h₂

/-- A sink that is alerted and finds no message while it waits. -/
theorem agreed_shipped :
    (Machine.run (step .shipped) (after .shipped attachAsSink)
      (.iterate (inputAt 200000 rpOnCc1 (some (dataMsg .sourceCap [fiveVolts] one_object_lt))) ::
        (Stage.events ⟨[.alert { interrupt := 0, interrupta := 4, interruptb := 0 } 201000,
            .iterate (inputAt 205000 rpOnCc1 none)],
            inputAt 210000 rpOnCc1 (some (ctrlMsg .accept))⟩ ++
          Stage.events ⟨[.iterate (inputAt 215000 rpOnCc1 none)],
            inputAt 220000 rpOnCc1 (some (ctrlMsg .psRdy))⟩))).Agreed (3000, 5000) := by
  have hlistens : (after .shipped attachAsSink).Listens := by
    constructor <;> decide +kernel
  have hplan : (after .shipped attachAsSink).capsPower
      (dataMsg .sourceCap [fiveVolts] one_object_lt).payload = (3000, 5000) := by
    decide +kernel
  have haccept : (ctrlMsg .accept).isCtrl .accept = true := by decide
  have hpsRdy : (ctrlMsg .psRdy).isCtrl .psRdy = true := by decide
  rw [← hplan]
  refine agreed_run .shipped hlistens (by decide) haccept hpsRdy rfl rfl (by decide)
    ⟨fun e he => ?_, rfl, rfl⟩ (by decide) ⟨fun e he => ?_, rfl, rfl⟩
  · rcases List.mem_pair.1 he with rfl | rfl
    · exact .alert ⟨by decide, by decide, by decide, by decide⟩ _
    · exact .iterate ⟨rfl, rfl⟩ (by decide)
  · rw [List.mem_singleton.1 he]
    exact .iterate ⟨rfl, rfl⟩ (by decide)

end Port

end UsbPd
