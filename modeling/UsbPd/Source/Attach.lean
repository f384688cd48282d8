import UsbPd.Link.Watch
import UsbPd.Source.Progress

/-!
# The attach to a sink

A source that is plugged into a sink measures Rd on one of its pins. After the debounce it
takes its polarity from the pin, switches VBUS on, and once the supply has had its time it
sends the capabilities of its table and waits for a Request in `PD_STATE_SRC_NEGOCIATE`.
-/

namespace UsbPd

open Machine (Shows)

/-- VBUS is switched on. -/
def Call.turnsOn : Call → Bool
  | .vbus on => on
  | _ => false

/-- The source capabilities go out. -/
def Call.sendsTable (b : Board) : Call → Bool
  | .transmit .sop header data _ =>
    headerType header = DataMsgType.sourceCap.toNat ∧ data = b.srcPdo
  | _ => false

namespace Port

variable {b : Board} {p q : Port} {old : List Call} {flipped : Bool}

/-- The source waits for the answer to its capabilities. -/
structure Offered (b : Board) (old : List Call) (flipped : Bool) (p : Port) : Prop where
  supplies : p.Supplies flipped
  task : p.pd.taskState = .srcNegociate
  last : p.pd.lastState = .srcDiscovery
  log : Shows old p.log [Call.sendsTable b, Call.turnsOn]

/-- The way from the attach, at `start` plus the debounce, to the capabilities; `now` is the end
of the last iteration. -/
inductive Starts (old : List Call) (start gap now : Nat) (p : Port) : Prop
  | enters (htask : p.pd.taskState = .srcStartup)
      (hlast : p.pd.lastState = .srcDisconnectedDebounce)
      (hnow : now < start + pdTCcDebounce + 4 * gap) (hlog : Shows old p.log [Call.turnsOn])
  | waits {deadline : Nat} (htask : p.pd.taskState = .srcStartup)
      (hlast : p.pd.lastState = .srcStartup)
      (htimer : (p.pd.timeout, p.pd.timeoutState) = (deadline, .srcDiscovery))
      (hcount : p.st.capsCount = 0)
      (hdeadline : deadline < start + pdTCcDebounce + pdPowerSupplyTurnOnDelay + 5 * gap)
      (hnow : now < deadline) (hlog : Shows old p.log [Call.turnsOn])
  | discovers (htask : p.pd.taskState = .srcDiscovery) (hcount : p.st.capsCount = 0)
      (hnow : now < start + pdTCcDebounce + pdPowerSupplyTurnOnDelay + 6 * gap)
      (hlog : Shows old p.log [Call.turnsOn])

/-! The two states before the attach. -/

/-- The level of a sink. -/
theorem Watches.detects_sink (h : p.Watches old .source .srcDisconnected) {block : MeasureBlock}
    {cc other : Pin} (hcc : block.upLevel cc = .rd) {inp : Input}
    (hr : block.Reads (.plug flipped cc other) .source inp.cc) :
    (p.srcDisconnected inp).Watches old .source .srcDisconnectedDebounce ∧
      (p.srcDisconnected inp).pd.ccState = .none := by
  obtain ⟨hmeasured, -⟩ := h.tcpmGetCc hr
  have hfound : ((p.tcpmGetCc inp.cc).st.cc1 = .rd ∨ (p.tcpmGetCc inp.cc).st.cc2 = .rd) ∨
      ((p.tcpmGetCc inp.cc).st.cc1 = .ra ∧ (p.tcpmGetCc inp.cc).st.cc2 = .ra) := by
    obtain ⟨-, -, hcc2⟩ | ⟨-, hcc1, -⟩ := eq_plugLevels (h.plugged hr)
    · exact .inl (.inr (hcc2.trans hcc))
    · exact .inl (.inl (hcc1.trans hcc))
  unfold srcDisconnected
  simp only
  rw [if_pos hfound]
  generalize p.tcpmGetCc inp.cc = r at hmeasured
  refine ⟨⟨?_, ?_, ?_, ?_, ?_, ?_, ?_, ?_⟩, ?_⟩
  · simp [hmeasured.powerRole]
  · simp [hmeasured.awake]
  · simp
  · simp [hmeasured.tx]
  · simp
  · simp [hmeasured.trySrc]
  · rw [chip_setState _ rfl]
    exact hmeasured.chip
  · rw [setState_log _ (by decide)]
    exact hmeasured.log
  · simp

theorem srcCcState_plug {idle : CcVoltage} (hidle : idle ≠ .rd)
    (hcc : (p.st.cc1, p.st.cc2) = plugLevels flipped .rd idle) :
    p.srcCcState = some .ufpAttached := by
  unfold srcCcState
  obtain ⟨-, hcc1, hcc2⟩ | ⟨-, hcc1, hcc2⟩ := eq_plugLevels hcc
  · rw [hcc1, hcc2, if_neg fun h => hidle h.1, if_pos (.inr rfl)]
  · rw [hcc1, hcc2, if_neg fun h => hidle h.2, if_pos (.inl rfl)]

/-- A level that lasts is debounced, and then the sink is attached. -/
theorem Watches.debounces_sink (h : p.Watches old .source .srcDisconnectedDebounce)
    {block : MeasureBlock} {cc other : Pin} (hcc : block.upLevel cc = .rd)
    (hother : block.upLevel other ≠ .rd) {inp : Input}
    (hr : block.Reads (.plug flipped cc other) .source inp.cc) :
    p.srcDisconnectedDebounce inp =
      if CcState.ufpAttached ≠ p.pd.ccState then
        (p.tcpmGetCc inp.cc).modifyPd fun pd => { pd with
          ccDebounce := inp.time .switch + pdTCcDebounce, ccState := .ufpAttached }
      else if inp.time .switch < p.pd.ccDebounce then p.tcpmGetCc inp.cc
      else (p.tcpmGetCc inp.cc).attachSink .ufpAttached := by
  have hlevels := h.plugged hr
  have hrd : block.roleLevel .source cc = .rd := hcc
  rw [hrd] at hlevels
  have hstate : (p.tcpmGetCc inp.cc).srcCcState = some .ufpAttached :=
    srcCcState_plug hother hlevels
  unfold srcDisconnectedDebounce
  simp only [hstate, tcpmGetCc_pd, h.trySrc, Bool.false_eq_true, not_false_eq_true, true_and,
    true_or, if_true]

/-- A plugged sink is below the reference of the detach measurement. -/
theorem plugged_of_reads {block : MeasureBlock} {cc other : Pin} (hcc : block.upLevel cc = .rd)
    {inp : Input} (hr : block.Reads (.plug flipped cc other) .source inp.ccTail) :
    inp.plugged flipped := by
  obtain ⟨⟨hvnc1, -⟩, hvnc2, -⟩ := hr
  have hbelow : ¬ block.mdac (Fusb302.measureMdacMv 1600 &&& 0x3F) < cc true false := fun hlt => by
    unfold MeasureBlock.upLevel MeasureBlock.sourceLevel at hcc
    rw [if_pos hlt] at hcc
    cases hcc
  unfold Input.plugged
  cases flipped with
  | true =>
      rw [if_pos rfl, hvnc2]
      exact (block.comparator_eq_zero _ _).2 hbelow
  | false =>
      rw [if_neg (by decide), hvnc1]
      exact (block.comparator_eq_zero _ _).2 hbelow

/-! The attach. -/

/-- What the attach of a sink writes. -/
theorem attachSink_writes (p : Port) :
    (p.attachSink .ufpAttached).pd.taskState = .srcStartup ∧
      (p.attachSink .ufpAttached).pd.timeout = 0 ∧
      (p.attachSink .ufpAttached).pd.txStatus = p.pd.txStatus ∧
      (p.attachSink .ufpAttached).pd.polarity = decide (p.st.cc1 ≠ .rd) ∧
      (p.attachSink .ufpAttached).chip.pullingUp = p.chip.pullingUp ∧
      (p.attachSink .ufpAttached).chip.vconnEnabled = p.chip.vconnEnabled ∧
      ∀ old, old <:+ p.log → Shows old (p.attachSink .ufpAttached).log [Call.turnsOn] := by
  have hreceiver : ∀ c : Fusb302, (c.setRxEnable true).2.pullingUp = c.pullingUp ∧
      (c.setRxEnable true).2.vconnEnabled = c.vconnEnabled := by
    intro c
    unfold Fusb302.setRxEnable
    simp only [if_true]
    split_ifs <;> exact ⟨rfl, rfl⟩
  unfold attachSink
  simp only [pdCommIsEnabled, pdSetPowerSupplyReady_fst, ne_eq, not_true, if_true, if_false,
    reduceCtorEq]
  generalize hm : Port.pdSetDataRole _ .dfp = m
  have hpd : m.pd = { p.pd with polarity := decide (p.st.cc1 ≠ .rd), dataRole := .dfp } := by
    rw [← hm]
    rfl
  have hchip : m.chip.pullingUp = p.chip.pullingUp ∧
      m.chip.vconnEnabled = p.chip.vconnEnabled := by
    rw [← hm]
    exact ⟨rfl, rfl⟩
  have hlog : m.log = p.log := by
    rw [← hm]
    rfl
  refine ⟨?_, ?_, ?_, ?_, ?_, ?_, ?_⟩
  · simp
  · simp
  · simp [hpd]
  · simp [hpd]
  · rw [chip_setState _ rfl]
    exact (congrArg Fusb302.pullingUp (chip_tcpmSetRxEnable ..)).trans
      ((hreceiver _).1.trans hchip.1)
  · rw [chip_setState _ rfl]
    exact (congrArg Fusb302.vconnEnabled (chip_tcpmSetRxEnable ..)).trans
      ((hreceiver _).2.trans hchip.2)
  · intro old hold
    have hcalled : Shows old m.pdSetPowerSupplyReady.2.log [Call.turnsOn] :=
      ((Shows.start old).later (hlog ▸ hold)).cons rfl
    have henabled : m.pdSetPowerSupplyReady.2.log <:+
        (m.pdSetPowerSupplyReady.2.tcpmSetRxEnable true).log :=
      suffix_of_does (does_tcpmSetRxEnable _ true)
    rw [setState_log _ (by decide)]
    exact hcalled.later henabled

/-- The attach takes the polarity of the plug and switches VBUS on. -/
theorem Watches.finds_sink (h : p.Watches old .source .srcDisconnectedDebounce)
    {block : MeasureBlock} {cc other : Pin} (hcc : block.upLevel cc = .rd)
    (hother : block.upLevel other ≠ .rd) {inp : Input}
    (hr : block.Reads (.plug flipped cc other) .source inp.cc)
    (htail : block.Reads (.plug flipped cc other) .source inp.ccTail) {start gap : Nat}
    (hnow : inp.time .tail < start + pdTCcDebounce + 4 * gap) :
    let q := ((p.tcpmGetCc inp.cc).attachSink .ufpAttached).finish .srcDisconnectedDebounce inp
    q.Supplies flipped ∧ q.Starts old start gap (inp.time .tail) := by
  intro q
  obtain ⟨hmeasured, -⟩ := h.tcpmGetCc hr
  have hlevels := h.plugged hr
  have hrd : block.roleLevel .source cc = .rd := hcc
  rw [hrd] at hlevels
  generalize hm : p.tcpmGetCc inp.cc = m at hmeasured hlevels
  obtain ⟨htask, htimer, htx, hpin, hup, hvconn, hlog⟩ := m.attachSink_writes
  have hdoes := m.does_attachSink .ufpAttached
  have hchip := hmeasured.chip
  simp only [Prod.mk.injEq] at hchip
  have hsupplies : (m.attachSink .ufpAttached).Supplies flipped := by
    refine ⟨(hdoes.keeps .role (by decide)).trans hmeasured.powerRole,
      (hdoes.keeps .suspend (by decide)).trans hmeasured.awake, hpin.trans ?_, hup.trans hchip.1,
      hvconn.trans hchip.2.1, htx.trans hmeasured.tx⟩
    obtain ⟨rfl, hcc1, -⟩ | ⟨rfl, hcc1, -⟩ := eq_plugLevels hlevels
    · rw [hcc1]
      exact decide_eq_true hother
    · rw [hcc1]
      rfl
  obtain ⟨hends, hkept, -⟩ := hsupplies.tail_early .srcDisconnectedDebounce
    (plugged_of_reads hcc htail) (.inl htimer)
  have hfound : Shows old (m.attachSink .ufpAttached).log [Call.turnsOn] := hlog old hmeasured.log
  have hq : q = (m.attachSink .ufpAttached).finish .srcDisconnectedDebounce inp := by rw [← hm]
  rw [hq]
  exact ⟨hends.supplies, .enters (hkept.trans htask) hends.last hnow (hfound.later hends.log)⟩

/-! The way to the capabilities. -/

theorem Starts.of_does {start gap now : Nat} (h : p.Starts old start gap now) {W : List Part}
    {K : List CallKind} (hdoes : Does W K p q)
    (hW : .task ∉ W ∧ .last ∉ W ∧ .timer ∉ W ∧ .capsCount ∉ W) :
    q.Starts old start gap now := by
  obtain ⟨htask, hlast, htimer, hcount⟩ := hW
  have hlog := suffix_of_does hdoes
  have hsame : q.pd.taskState = p.pd.taskState ∧ q.pd.lastState = p.pd.lastState ∧
      (q.pd.timeout, q.pd.timeoutState) = (p.pd.timeout, p.pd.timeoutState) ∧
      q.st.capsCount = p.st.capsCount :=
    ⟨hdoes.keeps .task htask, hdoes.keeps .last hlast, hdoes.keeps .timer htimer,
      hdoes.keeps .capsCount hcount⟩
  cases h with
  | enters ht hl hnow hshows =>
      exact .enters (hsame.1.trans ht) (hsame.2.1.trans hl) hnow (hshows.later hlog)
  | waits ht hl hti hc hdeadline hnow hshows =>
      exact .waits (hsame.1.trans ht) (hsame.2.1.trans hl) (hsame.2.2.1.trans hti)
        (hsame.2.2.2.trans hc) hdeadline hnow (hshows.later hlog)
  | discovers ht hc hnow hshows =>
      exact .discovers (hsame.1.trans ht) (hsame.2.2.2.trans hc) hnow (hshows.later hlog)

/-- A source that waits for its supply ends the iteration waiting or in
`PD_STATE_SRC_DISCOVERY`. -/
theorem Supplies.starts_waits (h : p.Supplies flipped) {inp : Input}
    (hplugged : inp.plugged flipped) (htask : p.pd.taskState = .srcStartup)
    {start gap deadline : Nat}
    (htimer : (p.pd.timeout, p.pd.timeoutState) = (deadline, .srcDiscovery))
    (hset : deadline ≠ 0) (hcount : p.st.capsCount = 0)
    (hdeadline : deadline < start + pdTCcDebounce + pdPowerSupplyTurnOnDelay + 5 * gap)
    (htail : inp.time .tail < start + pdTCcDebounce + pdPowerSupplyTurnOnDelay + 6 * gap)
    (hlog : Shows old p.log [Call.turnsOn]) :
    (p.finish .srcStartup inp).Supplies flipped ∧
      (p.finish .srcStartup inp).Starts old start gap (inp.time .tail) := by
  obtain ⟨htimeout, hstate⟩ := Prod.mk.inj htimer
  by_cases hlate : deadline ≤ inp.time .tail
  · obtain ⟨hends, hfired⟩ := h.tail_late .srcStartup hplugged (htimeout ▸ hset)
      (htimeout ▸ hlate) (hstate ▸ rfl)
    exact ⟨hends.supplies, .discovers (hfired.trans hstate) (hends.capsCount.trans hcount) htail
      (hlog.later hends.log)⟩
  · have hearly := Nat.lt_of_not_le hlate
    obtain ⟨hends, hkept, htime⟩ := h.tail_early .srcStartup hplugged (.inr (htimeout ▸ hearly))
    exact ⟨hends.supplies, .waits (hkept.trans htask) hends.last (htime.trans htimer)
      (hends.capsCount.trans hcount) hdeadline hearly (hlog.later hends.log)⟩

/-- The capabilities leave `PD_STATE_SRC_DISCOVERY`. -/
theorem Supplies.offers_table (h : p.Supplies flipped) (hsome : b.srcPdo ≠ [])
    (hcount : p.st.capsCount = 0) (hlog : Shows old p.log [Call.turnsOn]) (inp : Input) :
    (p.srcDiscovery b inp).Supplies flipped ∧
      (p.srcDiscovery b inp).pd.taskState = .srcNegociate ∧
      (p.srcDiscovery b inp).pd.timeout = 0 ∧
      Shows old (p.srcDiscovery b inp).log [Call.sendsTable b, Call.turnsOn] := by
  unfold srcDiscovery
  simp only
  generalize hr : (if p.entering ∧ p.pd.flags.previousPdConn then _ else p : Port) = r
  have hkept : r.Supplies flipped ∧ r.st.capsCount = 0 ∧ r.log = p.log := by
    rw [← hr]
    by_cases hreturn : p.entering ∧ p.pd.flags.previousPdConn
    · rw [if_pos hreturn]
      exact ⟨⟨h.role, h.awake, h.polarity, h.pullUp, h.vconn, h.tx⟩, hcount, rfl⟩
    · rw [if_neg hreturn]
      exact ⟨h, hcount, rfl⟩
  obtain ⟨hsupplies, hzero, hsame⟩ := hkept
  have hlength : b.srcPdo.length ≠ 0 := fun hnone => hsome (List.eq_nil_of_length_eq_zero hnone)
  have hsend : r.sendSourceCap b = r.pdTransmit .sop
      (r.header DataMsgType.sourceCap.toNat b.srcPdo.length) b.srcPdo := if_neg hlength
  have hsent : (r.sendSourceCap b).1 = 1 := by
    rw [hsend]
    exact if_pos hsupplies.tx
  have htable : (Call.transmit .sop (r.header DataMsgType.sourceCap.toNat b.srcPdo.length)
      b.srcPdo (if r.pd.txStatus = .success then 1 else -1)).sendsTable b = true :=
    decide_eq_true ⟨headerType_header r (by decide) _, rfl⟩
  have hcalled : Shows old (r.sendSourceCap b).2.log [Call.sendsTable b, Call.turnsOn] := by
    rw [hsend]
    exact (hsame ▸ hlog).cons htable
  have hsource : ((r.sendSourceCap b).2.setState .srcNegociate).Supplies flipped := by
    rw [hsend]
    refine Supplies.setState ?_ rfl
    exact ⟨hsupplies.role, hsupplies.awake, hsupplies.polarity, hsupplies.pullUp, hsupplies.vconn,
      hsupplies.tx⟩
  rw [if_pos (by rw [hzero]; decide), if_pos (by rw [hsent]; decide)]
  refine ⟨⟨hsource.role, hsource.awake, hsource.polarity, hsource.pullUp, hsource.vconn,
    hsource.tx⟩, ?_, ?_, ?_⟩
  · simp
  · simp
  · change Shows old ((r.sendSourceCap b).2.setState .srcNegociate).log _
    rw [setState_log _ (by decide)]
    exact hcalled

/-- An iteration on the way to the capabilities. -/
theorem Starts.iterate (hp : p.Supplies flipped) {start gap now : Nat}
    (h : p.Starts old start gap now) (hsome : b.srcPdo ≠ []) {inp : Input} (hstill : inp.still)
    (hplugged : inp.plugged flipped) (htime : inp.time .switch ≤ inp.time .tail)
    (hgap : inp.time .tail ≤ now + gap) :
    ((p.pdRunStateMachine b inp).Supplies flipped ∧
        (p.pdRunStateMachine b inp).Starts old start gap (inp.time .tail)) ∨
      (p.pdRunStateMachine b inp).Offered b old flipped := by
  obtain ⟨hdoes, hq⟩ := hp.beforeSwitch_still b hstill
  have hstarts := h.of_does hdoes (by decide)
  unfold pdRunStateMachine
  simp only
  generalize p.beforeSwitch b inp = q at hq hstarts
  cases hstarts with
  | enters htask hlast hnow hlog =>
      have hentering : q.entering = true := by
        unfold entering
        rw [hlast, htask]
        decide
      generalize hr : q.runState b inp = r
      have hrun : r = ((((q.setFlags { q.pd.flags with checkIdentity := true }).resetMsgId).modifySt
          fun st => { st with capsCount := 0, snkCapCount := 0 }).setStateTimeout
            (inp.time .switch + pdPowerSupplyTurnOnDelay) .srcDiscovery) := by
        rw [← hr, runState, htask]
        exact if_pos hentering
      have hsupplies : r.Supplies flipped := by
        rw [hrun]
        exact ⟨hq.role, hq.awake, hq.polarity, hq.pullUp, hq.vconn, hq.tx⟩
      have hstartup : r.pd.taskState = .srcStartup := by rw [hrun]; exact htask
      have htimer : (r.pd.timeout, r.pd.timeoutState) =
          (inp.time .switch + pdPowerSupplyTurnOnDelay, .srcDiscovery) := by rw [hrun]; rfl
      have hcount : r.st.capsCount = 0 := by rw [hrun]; rfl
      have hlogged : Shows old r.log [Call.turnsOn] := by
        rw [hrun]
        exact hlog.later (List.suffix_cons Call.msgIdReset q.log)
      have hset : inp.time .switch + pdPowerSupplyTurnOnDelay ≠ 0 :=
        Nat.ne_of_gt (Nat.add_pos_right _ (by decide))
      rw [htask]
      exact .inl (hsupplies.starts_waits hplugged hstartup htimer hset hcount (by omega)
        (by omega) hlogged)
  | waits htask hlast htimer hcount hdeadline hnow hlog =>
      have hrun : q.runState b inp = q := by
        unfold runState srcStartup
        rw [htask]
        exact if_neg (by simp [entering_eq_false (hlast.trans htask.symm)])
      rw [hrun, htask]
      exact .inl (hq.starts_waits hplugged htask htimer (Nat.ne_of_gt (Nat.zero_lt_of_lt hnow))
        hcount hdeadline (by omega) hlog)
  | discovers htask hcount hnow hlog =>
      have hrun : q.runState b inp = q.srcDiscovery b inp := by
        unfold runState
        rw [htask]
      rw [hrun, htask]
      obtain ⟨hsupplies, hnegociate, htimer, hshows⟩ := hq.offers_table hsome hcount hlog inp
      obtain ⟨hends, hkept, -⟩ := hsupplies.tail_early .srcDiscovery hplugged (.inl htimer)
      exact .inr ⟨hends.supplies, hkept.trans hnegociate, hends.last, hshows.later hends.log⟩

/-- The source approaches the sink, or starts to supply it. -/
def OnTheWay (old : List Call) (flipped : Bool) (start gap now : Nat) (p : Port) : Prop :=
  p.Approaches old .source .ufpAttached start gap now ∨
    (p.Supplies flipped ∧ p.Starts old start gap now)

/-- The way lasts less than the times of the debounce and of the supply and six gaps. -/
theorem OnTheWay.lt_of_onTheWay {start gap now : Nat} (h : p.OnTheWay old flipped start gap now) :
    now < start + pdTCcDebounce + pdPowerSupplyTurnOnDelay + 6 * gap := by
  obtain happroach | ⟨-, hstarts⟩ := h
  · have hsoon := happroach.lt_of_approaches
    omega
  · cases hstarts with
    | enters _ _ hnow => omega
    | waits _ _ _ _ hdeadline hnow => omega
    | discovers _ _ hnow => exact hnow

/-- An interrupt keeps the source on its way. -/
theorem OnTheWay.alert_fine {start gap now : Nat} (h : p.OnTheWay old flipped start gap now)
    {irq : Interrupts} (hfine : irq.fine) (time : Nat) :
    (p.tcpcAlert irq time).OnTheWay old flipped start gap now := by
  obtain happroach | ⟨hsupplies, hstarts⟩ := h
  · exact .inl (happroach.alert_fine hfine time)
  · obtain ⟨hdoes, hkept⟩ := hsupplies.alert_fine hfine time
    exact .inr ⟨hkept, hstarts.of_does hdoes (by decide)⟩

/-- An iteration keeps it there, or brings it to the end. -/
theorem OnTheWay.iterate {start gap now : Nat} (h : p.OnTheWay old flipped start gap now)
    (hsome : b.srcPdo ≠ []) {block : MeasureBlock} {cc other : Pin}
    (hcc : block.upLevel cc = .rd) (hother : block.upLevel other ≠ .rd) {inp : Input}
    (hstill : inp.still) (hr : block.Reads (.plug flipped cc other) .source inp.cc)
    (htail : block.Reads (.plug flipped cc other) .source inp.ccTail)
    (htime : inp.time .switch ≤ inp.time .tail)
    (hshort : inp.time .tail ≤ inp.time .switch + gap) (hgap : inp.time .tail ≤ now + gap) :
    (p.pdRunStateMachine b inp).OnTheWay old flipped start gap (inp.time .tail) ∨
      (p.pdRunStateMachine b inp).Offered b old flipped := by
  obtain happroach | ⟨hsupplies, hstarts⟩ := h
  · have hfinds : Approaches.Finds b old .source inp := fun r hwatch => by
      rw [runState, hwatch.task]
      exact hwatch.detects_sink hcc hr
    have hdebounces : Approaches.Debounces b old .source .ufpAttached
        (fun r => r.attachSink .ufpAttached) inp := fun r hwatch => by
      rw [runState, hwatch.task]
      exact ⟨(hwatch.tcpmGetCc hr).1, hwatch.debounces_sink hcc hother hr⟩
    have hsoon := happroach.lt_of_approaches
    obtain hon | ⟨r, hwatch, hattached⟩ :=
      happroach.iterate (by decide) hstill hfinds hdebounces htime hshort hgap
    · exact .inl (.inl hon)
    · rw [hattached]
      exact .inl (.inr (hwatch.finds_sink hcc hother hr htail (by omega)))
  · obtain hon | hdone := hstarts.iterate hsupplies hsome hstill (plugged_of_reads hcc htail) htime
      hgap
    · exact .inl (.inr hon)
    · exact .inr hdone

/-- A sink that is plugged in, whichever way round, is found after the debounce, and the
capabilities are out once the supply has had its time. -/
theorem offered_run (b : Board) (hsome : b.srcPdo ≠ []) {p : Port} (h : p.Unplugged .source)
    {block : MeasureBlock} {flipped : Bool} {cc other : Pin} (hcc : block.upLevel cc = .rd)
    (hother : block.upLevel other ≠ .rd) {gap start : Nat} {es : List Event}
    (hsteady : ∀ e ∈ es, Steady (block.Reads (.plug flipped cc other) .source) gap e)
    (hpaced : Machine.Paced Event.ends gap start es)
    (hlate : start + pdTCcDebounce + pdPowerSupplyTurnOnDelay + 6 * gap ≤
      Machine.latest Event.ends start es) :
    Machine.Reaches (Machine.instant Event.ends) (step b)
      (fun now q => q.Offered b p.log flipped ∧
        now < start + pdTCcDebounce + pdPowerSupplyTurnOnDelay + 7 * gap) start p es := by
  have hstart : p.OnTheWay p.log flipped start gap start := .inl (.detached h le_rfl)
  obtain hends | hreached := steady_reaches (b := b)
    (R := fun now q => q.OnTheWay p.log flipped start gap now)
    (G := fun now q => q.Offered b p.log flipped ∧
      now < start + pdTCcDebounce + pdPowerSupplyTurnOnDelay + 7 * gap)
    (fun _ _ _ time hq hfine => hq.alert_fine hfine time)
    (fun now q inp hq hstill hr htail htime hshort hgap => by
      have hsoon := hq.lt_of_onTheWay
      exact (hq.iterate hsome hcc hother hstill hr htail htime hshort hgap).imp_right fun hdone =>
        ⟨hdone, by omega⟩)
    hstart hsteady hpaced
  · exact absurd hends.lt_of_onTheWay (Nat.not_lt.2 hlate)
  · exact hreached

/-- A wire with Rd, pulled up by the chip or not. -/
def rdWire : Pin := fun up _ => if up then 900 else 0

/-- What a source reads from an upright plug. -/
def rdOnPlug : CcReading := { rdOnCc1 with rd2 := Fusb302.status0Comp }

def afterPlugIn : List Event :=
  [50000, 70000, 90000, 110000, 130000, 150000, 170000, 190000, 210000, 230000, 250000, 270000].map
    fun now => .iterate (inputAt now rdOnPlug none)

/-- A port that has toggled to source finds an upright plug. -/
theorem offered_upright : Machine.Reaches (Machine.instant Event.ends) (step .shipped)
    (fun now q => q.Offered .shipped (after .shipped (attachAsSource.take 2)).log false ∧
      now < 40000 + pdTCcDebounce + pdPowerSupplyTurnOnDelay + 7 * 20000) 40000
    (after .shipped (attachAsSource.take 2)) afterPlugIn := by
  have hunplugged : (after .shipped (attachAsSource.take 2)).Unplugged .source := by
    constructor <;> decide +kernel
  have hreads : usualBlock.Reads (.plug false rdWire openWire) .source rdOnPlug := by
    refine ⟨⟨?_, ?_⟩, ?_, ?_⟩ <;> decide
  have hcc : usualBlock.upLevel rdWire = .rd := by decide
  have hother : usualBlock.upLevel openWire ≠ .rd := by decide
  have hpaced : Machine.Paced Event.ends 20000 40000 afterPlugIn := by
    simp [Machine.Paced, Machine.Timed, Machine.instant, Event.ends, afterPlugIn, inputAt]
  refine offered_run .shipped (by decide) hunplugged hcc hother (fun e he => ?_) hpaced (by decide)
  obtain ⟨now, -, rfl⟩ := List.mem_map.1 he
  exact .iterate ⟨rfl, rfl⟩ hreads hreads le_rfl (Nat.le_add_right ..)

end Port

end UsbPd
