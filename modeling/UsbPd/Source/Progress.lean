import UsbPd.Link.Backing
import UsbPd.Link.Wire
import UsbPd.Machine.History
import UsbPd.Machine.Stage
import UsbPd.Source.Transition
import UsbPd.System.Still
import UsbPd.Tcpc.Switches

/-!
# The time that a source takes to serve a Request

A source in `PD_STATE_SRC_NEGOCIATE` that hears an acceptable Request answers with Accept,
changes the voltage and sends PS_RDY. Between these it waits for two timers, and each of them
is noticed by the first iteration that ends after it. So PS_RDY is out once the clock has
passed both timers and three gaps between iterations.
-/

namespace UsbPd

open Machine (Shows)

/-- The voltage is changed to the one of the position `idx`. -/
def Call.changesTo (idx : Nat) : Call → Bool
  | .transitionVoltage i => i = idx
  | _ => false

/-- The detach measurement finds a voltage below the comparator's on the pin of the polarity. -/
def Input.plugged (polarity : Bool) (inp : Input) : Prop :=
  (if polarity then inp.ccTail.vnc2 else inp.ccTail.vnc1) &&& Fusb302.status0Comp = 0

/-- Nothing happens to a source whose sink stays plugged. -/
inductive Quiet (polarity : Bool) : Event → Prop
  | iterate {inp : Input} (h : inp.still) (hplugged : inp.plugged polarity)
      (htime : inp.time .switch ≤ inp.time .tail) : Quiet polarity (.iterate inp)
  | alert {irq : Interrupts} (h : irq.fine) (now : Nat) : Quiet polarity (.alert irq now)

namespace Fusb302

variable {c : Fusb302}

theorem selected_measureCcPinSource (c : Fusb302) (pin2 : Bool) (vnc rd : BitVec 8) :
    (c.measureCcPinSource pin2 vnc rd).2.selected = c.selected := by
  unfold measureCcPinSource
  simp only
  split_ifs <;> rfl

theorem measureCcPinSource_ne_open (c : Fusb302) (pin2 : Bool) {vnc : BitVec 8} (rd : BitVec 8)
    (h : vnc &&& status0Comp = 0) : (c.measureCcPinSource pin2 vnc rd).1 ≠ .open := by
  unfold measureCcPinSource
  simp only
  rw [if_pos h]
  simp only
  split_ifs <;> simp

/-- What the driver selected is in its record. -/
theorem selected_of_chipState {d : Fusb302} (h : d.chipState = c.chipState) :
    d.selected = c.selected :=
  congrArg (fun s : ChipState =>
    (⟨s.ccPolarity, s.vconnEnabled, s.pullingUp, s.rxEnable⟩ : Selected)) h

/-- A chip that pulls up without VCONN measures both pins. -/
theorem getCc_pullUp (hup : c.pullingUp = true) (hvconn : c.vconnEnabled = false) (r : CcReading)
    (cc1 cc2 : CcVoltage) : (c.getCc r cc1 cc2).2.2.selected = c.selected ∧
      (r.vnc1 &&& status0Comp = 0 → (c.getCc r cc1 cc2).1 ≠ .open) ∧
      (r.vnc2 &&& status0Comp = 0 → (c.getCc r cc1 cc2).2.1 ≠ .open) := by
  unfold getCc detectCcPinSourceManual
  simp only [hup, hvconn, if_true, Bool.false_eq_true, if_false]
  refine ⟨?_, measureCcPinSource_ne_open c false _, measureCcPinSource_ne_open _ true _⟩
  rw [selected_measureCcPinSource, selected_measureCcPinSource]

end Fusb302

namespace Port

/-- The port supplies a sink on the pin of the polarity, and what it sends arrives. -/
structure Supplies (polarity : Bool) (p : Port) : Prop where
  role : p.pd.powerRole = .source
  awake : p.pd.reqSuspendState = false
  polarity : p.pd.polarity = polarity
  pullUp : p.chip.pullingUp = true
  vconn : p.chip.vconnEnabled = false
  tx : p.pd.txStatus = .success

variable {b : Board} {p q : Port} {polarity : Bool}

namespace Supplies

theorem of_does (h : p.Supplies polarity) {W : List Part} {K : List CallKind}
    (hdoes : Does W K p q) (hW : .role ∉ W ∧ .suspend ∉ W ∧ .polarity ∉ W)
    (hchip : q.chip.selected = p.chip.selected) (htx : q.pd.txStatus = .success) :
    q.Supplies polarity where
  role := (hdoes.keeps .role hW.1).trans h.role
  awake := (hdoes.keeps .suspend hW.2.1).trans h.awake
  polarity := (hdoes.keeps .polarity hW.2.2).trans h.polarity
  pullUp := (congrArg Selected.pullingUp hchip).trans h.pullUp
  vconn := (congrArg Selected.vconnEnabled hchip).trans h.vconn
  tx := htx

/-- The states between Accept and PS_RDY leave the chip alone. -/
theorem setState (h : p.Supplies polarity) {s : PdState} (hs : s.detached = false) :
    (p.setState s).Supplies polarity := by
  have hchip := p.chip_setState hs
  constructor
  · simp [h.role]
  · simp [h.awake]
  · simp [h.polarity]
  · rw [hchip, h.pullUp]
  · rw [hchip, h.vconn]
  · simp [h.tx]

theorem setLast (h : p.Supplies polarity) (s : PdState) : (p.setLast s).Supplies polarity :=
  ⟨h.role, h.awake, h.polarity, h.pullUp, h.vconn, h.tx⟩

/-- A plugged sink is not taken for detached. -/
theorem checkSourceDetach (h : p.Supplies polarity) {inp : Input}
    (hplugged : inp.plugged polarity) : Does [.chip, .cc] [] p (p.checkSourceDetach inp) ∧
      (p.checkSourceDetach inp).Supplies polarity := by
  have hmeasured := p.does_tcpmGetCc inp.ccTail
  obtain ⟨hchip, hcc1, hcc2⟩ :=
    Fusb302.getCc_pullUp h.pullUp h.vconn inp.ccTail p.st.cc1 p.st.cc2
  have hstays : (p.tcpmGetCc inp.ccTail).Supplies polarity :=
    h.of_does hmeasured (by decide) hchip h.tx
  generalize hr : (if (p.tcpmGetCc inp.ccTail).pd.polarity = true then
      (p.tcpmGetCc inp.ccTail).modifySt fun st => { st with cc1 := st.cc2 }
    else p.tcpmGetCc inp.ccTail) = r
  have hopen : r.st.cc1 ≠ .open ∧ Does [.chip, .cc] [] p r ∧ r.Supplies polarity := by
    have hpolarity := hstays.polarity
    unfold Input.plugged at hplugged
    cases polarity with
    | true =>
        have hassign : Does [.cc] [] (p.tcpmGetCc inp.ccTail)
            ((p.tcpmGetCc inp.ccTail).modifySt fun st => { st with cc1 := st.cc2 }) :=
          .assign (by rintro ⟨⟩ hx <;> first | rfl | simp at hx) rfl
        rw [if_pos hpolarity] at hr
        rw [← hr]
        exact ⟨hcc2 hplugged, (hmeasured.trans hassign).mono (by decide),
          hstays.of_does hassign (by decide) rfl hstays.tx⟩
    | false =>
        rw [if_neg (by rw [hpolarity]; decide)] at hr
        rw [← hr]
        exact ⟨hcc1 hplugged, hmeasured, hstays⟩
  have hresult : p.checkSourceDetach inp = r := by
    unfold Port.checkSourceDetach
    rw [if_pos h.role]
    simp only
    rw [hr]
    exact if_neg hopen.1
  rw [hresult]
  exact hopen.2

/-- After the timer the tail of the iteration only measures. -/
theorem finish {s : PdState} {inp : Input}
    (h : ((p.setLast s).checkTimeout (inp.time .tail)).Supplies polarity)
    (hplugged : inp.plugged polarity) :
    Does [.chip, .cc] [] ((p.setLast s).checkTimeout (inp.time .tail)) (p.finish s inp) ∧
      (p.finish s inp).Supplies polarity := by
  unfold Port.finish
  simp only [checkSinkDetach_eq]
  split_ifs
  · exact ⟨does_nothing _ _ _, h⟩
  · exact h.checkSourceDetach hplugged

end Supplies

namespace Supplies

/-- The port as the switch of a still iteration finds it. -/
theorem beforeSwitch_still (h : p.Supplies polarity) (b : Board) {inp : Input}
    (hstill : inp.still) : Does [.vdm, .chip] [.sop] p (p.beforeSwitch b inp) ∧
      (p.beforeSwitch b inp).Supplies polarity := by
  have hdoes := does_beforeSwitch_still b hstill h.awake
  obtain ⟨hchip, htx⟩ := chipState_beforeSwitch_still b hstill h.awake
  exact ⟨hdoes, h.of_does hdoes (by decide) (Fusb302.selected_of_chipState hchip)
    (htx.trans h.tx)⟩

/-- A report of success leaves the selection of the chip alone. -/
theorem alert_fine (h : p.Supplies polarity) {irq : Interrupts} (hfine : irq.fine) (now : Nat) :
    Does [.link, .chip] [.alert] p (p.tcpcAlert irq now) ∧
      (p.tcpcAlert irq now).Supplies polarity := by
  obtain ⟨hdoes, htx⟩ := p.does_tcpcAlert_fine hfine now
  exact ⟨hdoes, h.of_does hdoes (by decide)
    (Fusb302.selected_of_chipState (chipState_tcpcAlert_fine hfine now)) (htx h.tx)⟩

end Supplies

/-! The stages. -/

/-- The stages of a source on the way to PS_RDY, after an Accept that followed `old` and was sent
at the time `accepted`; `now` is the end of the last iteration. -/
inductive Serves (idx accepted gap : Nat) (old : List Call) (now : Nat) (p : Port) : Prop
  | waits (htask : p.pd.taskState = .srcAccepted) (hlast : p.pd.lastState = .srcAccepted)
      (htimer : (p.pd.timeout, p.pd.timeoutState) = (accepted + pdTSinkTransition, .srcPowered))
      (hidx : p.pd.requestedIdx = idx) (hnow : now < accepted + pdTSinkTransition)
      (hlog : Shows old p.log [Call.sendsAccept])
  | turns (htask : p.pd.taskState = .srcPowered) (hlast : p.pd.lastState = .srcAccepted)
      (hidx : p.pd.requestedIdx = idx) (hnow : now < accepted + pdTSinkTransition + gap)
      (hlog : Shows old p.log [Call.sendsAccept])
  | settles {deadline : Nat} (htask : p.pd.taskState = .srcPowered)
      (hlast : p.pd.lastState = .srcPowered)
      (htimer : (p.pd.timeout, p.pd.timeoutState) = (deadline, .srcTransition))
      (hdeadline : deadline <
        accepted + pdTSinkTransition + pdPowerSupplyTurnOnDelay + 2 * gap)
      (hnow : now < deadline)
      (hlog : Shows old p.log [Call.changesTo idx, Call.sendsAccept])
  | reports (htask : p.pd.taskState = .srcTransition)
      (hnow : now < accepted + pdTSinkTransition + pdPowerSupplyTurnOnDelay + 3 * gap)
      (hlog : Shows old p.log [Call.changesTo idx, Call.sendsAccept])

/-- PS_RDY is out, or the source is on the way there. -/
def ServesOrServed (polarity : Bool) (idx accepted gap : Nat) (old : List Call) (now : Nat)
    (p : Port) : Prop :=
  Shows old p.log [Call.sendsPsRdy, Call.changesTo idx, Call.sendsAccept] ∨
    (p.Supplies polarity ∧ p.Serves idx accepted gap old now)

/-- What the tail of an iteration in the state `s` leaves. -/
structure Ends (polarity : Bool) (s : PdState) (p q : Port) : Prop where
  supplies : q.Supplies polarity
  log : p.log <:+ q.log
  requestedIdx : q.pd.requestedIdx = p.pd.requestedIdx
  capsCount : q.st.capsCount = p.st.capsCount
  last : q.pd.lastState = s

/-- The tail, unless a timer has run out. -/
theorem Supplies.tail_early (h : p.Supplies polarity) (s : PdState) {inp : Input}
    (hplugged : inp.plugged polarity)
    (hearly : p.pd.timeout = 0 ∨ inp.time .tail < p.pd.timeout) :
    Ends polarity s p (p.finish s inp) ∧ (p.finish s inp).pd.taskState = p.pd.taskState ∧
      ((p.finish s inp).pd.timeout, (p.finish s inp).pd.timeoutState) =
        (p.pd.timeout, p.pd.timeoutState) := by
  have hkept : (p.setLast s).checkTimeout (inp.time .tail) = p.setLast s :=
    if_neg fun hout => hearly.elim hout.1 (Nat.not_lt.2 hout.2)
  have hlast : ((p.setLast s).checkTimeout (inp.time .tail)).Supplies polarity := by
    rw [hkept]
    exact h.setLast s
  obtain ⟨hdoes, hfinal⟩ := Supplies.finish hlast hplugged
  rw [hkept] at hdoes
  have hlog : (p.setLast s).log <:+ (p.finish s inp).log := suffix_of_does hdoes
  exact ⟨⟨hfinal, hlog, hdoes.keeps .requestedIdx (by decide),
    hdoes.keeps .capsCount (by decide), hdoes.keeps .last (by decide)⟩,
    hdoes.keeps .task (by decide), hdoes.keeps .timer (by decide)⟩

/-- The tail that notices that the timer has run out. -/
theorem Supplies.tail_late (h : p.Supplies polarity) (s : PdState) {inp : Input}
    (hplugged : inp.plugged polarity) (hset : p.pd.timeout ≠ 0)
    (hlate : p.pd.timeout ≤ inp.time .tail) (hnext : p.pd.timeoutState.detached = false) :
    Ends polarity s p (p.finish s inp) ∧
      (p.finish s inp).pd.taskState = p.pd.timeoutState := by
  have hfired : (p.setLast s).checkTimeout (inp.time .tail) =
      (p.setLast s).setState p.pd.timeoutState := if_pos ⟨hset, hlate⟩
  have hstate : ((p.setLast s).checkTimeout (inp.time .tail)).Supplies polarity := by
    rw [hfired]
    exact (h.setLast s).setState hnext
  obtain ⟨hdoes, hfinal⟩ := Supplies.finish hstate hplugged
  rw [hfired] at hdoes
  have hlog : ((p.setLast s).setState p.pd.timeoutState).log = p.log :=
    congrArg (fun d : Vital × Place => d.1.log) (data_setState _ hnext)
  obtain ⟨hidx, hcount, hlast, htask⟩ :
      ((p.setLast s).setState p.pd.timeoutState).pd.requestedIdx = p.pd.requestedIdx ∧
      ((p.setLast s).setState p.pd.timeoutState).st.capsCount = p.st.capsCount ∧
      ((p.setLast s).setState p.pd.timeoutState).pd.lastState = s ∧
      ((p.setLast s).setState p.pd.timeoutState).pd.taskState = p.pd.timeoutState := by
    simp
  exact ⟨⟨hfinal, hlog ▸ suffix_of_does hdoes,
    (hdoes.keeps .requestedIdx (by decide)).trans hidx,
    (hdoes.keeps .capsCount (by decide)).trans hcount,
    (hdoes.keeps .last (by decide)).trans hlast⟩,
    (hdoes.keeps .task (by decide)).trans htask⟩

/-! One event of each stage. -/

variable {idx accepted gap now : Nat} {old : List Call}

theorem Serves.of_does (h : p.Serves idx accepted gap old now) {W : List Part}
    {K : List CallKind} (hdoes : Does W K p q)
    (hW : .task ∉ W ∧ .last ∉ W ∧ .timer ∉ W ∧ .requestedIdx ∉ W) :
    q.Serves idx accepted gap old now := by
  obtain ⟨htask, hlast, htimer, hidx⟩ := hW
  have hlog := suffix_of_does hdoes
  have hsame : q.pd.taskState = p.pd.taskState ∧ q.pd.lastState = p.pd.lastState ∧
      (q.pd.timeout, q.pd.timeoutState) = (p.pd.timeout, p.pd.timeoutState) ∧
      q.pd.requestedIdx = p.pd.requestedIdx :=
    ⟨hdoes.keeps .task htask, hdoes.keeps .last hlast, hdoes.keeps .timer htimer,
      hdoes.keeps .requestedIdx hidx⟩
  cases h with
  | waits ht hl hti hi hnow hshows =>
      exact .waits (hsame.1.trans ht) (hsame.2.1.trans hl) (hsame.2.2.1.trans hti)
        (hsame.2.2.2.trans hi) hnow (hshows.later hlog)
  | turns ht hl hi hnow hshows =>
      exact .turns (hsame.1.trans ht) (hsame.2.1.trans hl) (hsame.2.2.2.trans hi) hnow
        (hshows.later hlog)
  | settles ht hl hti hdeadline hnow hshows =>
      exact .settles (hsame.1.trans ht) (hsame.2.1.trans hl) (hsame.2.2.1.trans hti) hdeadline
        hnow (hshows.later hlog)
  | reports ht hnow hshows => exact .reports (hsame.1.trans ht) hnow (hshows.later hlog)

/-- The source is not late. -/
theorem Serves.now_lt (h : p.Serves idx accepted gap old now) :
    now < accepted + pdTSinkTransition + pdPowerSupplyTurnOnDelay + 3 * gap := by
  cases h with
  | waits _ _ _ _ hnow => omega
  | turns _ _ _ hnow =>
      have hdelay : 0 < pdPowerSupplyTurnOnDelay := by decide
      omega
  | settles _ _ _ hdeadline hnow => omega
  | reports _ hnow => exact hnow

/-- A state that was entered before does not arm its timer again. -/
theorem entering_eq_false (h : p.pd.lastState = p.pd.taskState) : p.entering = false := by
  unfold entering
  rw [h]
  simp

/-- A source that waits for `PD_STATE_SRC_POWERED` ends the iteration waiting or there. -/
theorem Supplies.serves_waits (h : p.Supplies polarity) {inp : Input}
    (hplugged : inp.plugged polarity) (htask : p.pd.taskState = .srcAccepted)
    (htimer : (p.pd.timeout, p.pd.timeoutState) = (accepted + pdTSinkTransition, .srcPowered))
    (hidx : p.pd.requestedIdx = idx) (hlog : Shows old p.log [Call.sendsAccept])
    (htail : inp.time .tail < accepted + pdTSinkTransition + gap) :
    (p.finish .srcAccepted inp).Supplies polarity ∧
      (p.finish .srcAccepted inp).Serves idx accepted gap old (inp.time .tail) := by
  obtain ⟨htimeout, hstate⟩ := Prod.mk.inj htimer
  by_cases hlate : accepted + pdTSinkTransition ≤ inp.time .tail
  · have hset : accepted + pdTSinkTransition ≠ 0 :=
      Nat.ne_of_gt (Nat.add_pos_right accepted (by decide))
    obtain ⟨hends, hfired⟩ := h.tail_late .srcAccepted hplugged (htimeout ▸ hset)
      (htimeout ▸ hlate) (hstate ▸ rfl)
    exact ⟨hends.supplies, .turns (hfired.trans hstate) hends.last (hends.requestedIdx.trans hidx)
      htail (hlog.later hends.log)⟩
  · have hearly := Nat.lt_of_not_le hlate
    obtain ⟨hends, hkept, htime⟩ := h.tail_early .srcAccepted hplugged (.inr (htimeout ▸ hearly))
    exact ⟨hends.supplies, .waits (hkept.trans htask) hends.last (htime.trans htimer)
      (hends.requestedIdx.trans hidx) hearly (hlog.later hends.log)⟩

/-- A source that waits for `PD_STATE_SRC_TRANSITION` ends the iteration waiting or there. -/
theorem Supplies.serves_settles (h : p.Supplies polarity) {inp : Input}
    (hplugged : inp.plugged polarity) (htask : p.pd.taskState = .srcPowered) {deadline : Nat}
    (htimer : (p.pd.timeout, p.pd.timeoutState) = (deadline, .srcTransition))
    (hset : deadline ≠ 0) (hdeadline : deadline <
      accepted + pdTSinkTransition + pdPowerSupplyTurnOnDelay + 2 * gap)
    (hlog : Shows old p.log [Call.changesTo idx, Call.sendsAccept])
    (htail : inp.time .tail < accepted + pdTSinkTransition + pdPowerSupplyTurnOnDelay + 3 * gap) :
    (p.finish .srcPowered inp).Supplies polarity ∧
      (p.finish .srcPowered inp).Serves idx accepted gap old (inp.time .tail) := by
  obtain ⟨htimeout, hstate⟩ := Prod.mk.inj htimer
  by_cases hlate : deadline ≤ inp.time .tail
  · obtain ⟨hends, hfired⟩ := h.tail_late .srcPowered hplugged (htimeout ▸ hset)
      (htimeout ▸ hlate) (hstate ▸ rfl)
    exact ⟨hends.supplies, .reports (hfired.trans hstate) htail (hlog.later hends.log)⟩
  · have hearly := Nat.lt_of_not_le hlate
    obtain ⟨hends, hkept, htime⟩ := h.tail_early .srcPowered hplugged (.inr (htimeout ▸ hearly))
    exact ⟨hends.supplies, .settles (hkept.trans htask) hends.last (htime.trans htimer) hdeadline
      hearly (hlog.later hends.log)⟩

/-- PS_RDY leaves `PD_STATE_SRC_TRANSITION`. -/
theorem Supplies.shows_srcTransition (h : p.Supplies polarity)
    (hlog : Shows old p.log [Call.changesTo idx, Call.sendsAccept]) :
    Shows old p.srcTransition.log [Call.sendsPsRdy, Call.changesTo idx, Call.sendsAccept] := by
  have hsent : (p.sendControl .psRdy).1 = 1 := if_pos h.tx
  have hready : (Call.transmit .sop (p.header CtrlMsgType.psRdy.toNat 0) []
      (if p.pd.txStatus = .success then 1 else -1)).sendsPsRdy = true :=
    decide_eq_true (headerType_header p (by decide) 0)
  have hcalled := hlog.cons hready
  unfold Port.srcTransition
  simp only
  rw [if_pos (hsent ▸ by decide), setState_log _ (by decide)]
  exact hcalled

/-- An iteration before the transition is over. -/
theorem Serves.iterate_early (hp : p.Supplies polarity) (h : p.Serves idx accepted gap old now)
    (hearly : p.pd.taskState ≠ .srcTransition) {inp : Input} (hstill : inp.still)
    (hplugged : inp.plugged polarity) (htime : inp.time .switch ≤ inp.time .tail)
    (hgap : inp.time .tail ≤ now + gap) : (p.pdRunStateMachine b inp).Supplies polarity ∧
      (p.pdRunStateMachine b inp).Serves idx accepted gap old (inp.time .tail) := by
  obtain ⟨hdoes, hq⟩ := hp.beforeSwitch_still b hstill
  have hserves := h.of_does hdoes (by decide)
  have hsame : (p.beforeSwitch b inp).pd.taskState = p.pd.taskState := hdoes.keeps .task (by decide)
  have htransition : (p.beforeSwitch b inp).pd.taskState ≠ .srcTransition := hsame ▸ hearly
  unfold pdRunStateMachine
  simp only
  generalize p.beforeSwitch b inp = q at hq hserves htransition
  cases hserves with
  | waits htask hlast htimer hidx hnow hlog =>
      have hrun : q.runState b inp = q := by
        unfold runState srcAccepted armOnEntry
        rw [htask]
        exact if_neg (by simp [entering_eq_false (hlast.trans htask.symm)])
      rw [hrun, htask]
      exact hq.serves_waits hplugged htask htimer hidx hlog (by omega)
  | turns htask hlast hidx hnow hlog =>
      have hentering : q.entering = true := by
        unfold entering
        rw [hlast, htask]
        decide
      have hrun : q.runState b inp = (q.pdTransitionVoltage q.pd.requestedIdx).setStateTimeout
          (inp.time .switch + pdPowerSupplyTurnOnDelay) .srcTransition := by
        unfold runState
        rw [htask]
        exact if_pos hentering
      rw [hrun, htask]
      have hchanged : Shows old (Call.transitionVoltage q.pd.requestedIdx :: q.log)
          [Call.changesTo idx, Call.sendsAccept] := hlog.cons (decide_eq_true hidx)
      have hset : inp.time .switch + pdPowerSupplyTurnOnDelay ≠ 0 :=
        Nat.ne_of_gt (Nat.add_pos_right _ (by decide))
      have hdeadline : inp.time .switch + pdPowerSupplyTurnOnDelay <
          accepted + pdTSinkTransition + pdPowerSupplyTurnOnDelay + 2 * gap := by omega
      generalize hr : (q.pdTransitionVoltage q.pd.requestedIdx).setStateTimeout
        (inp.time .switch + pdPowerSupplyTurnOnDelay) .srcTransition = r
      have hsupplies : r.Supplies polarity := by
        rw [← hr]
        exact ⟨hq.role, hq.awake, hq.polarity, hq.pullUp, hq.vconn, hq.tx⟩
      have htimer : (r.pd.timeout, r.pd.timeoutState) =
          (inp.time .switch + pdPowerSupplyTurnOnDelay, .srcTransition) := by rw [← hr]; rfl
      have hpowered : r.pd.taskState = .srcPowered := by rw [← hr]; exact htask
      have hlogged : Shows old r.log [Call.changesTo idx, Call.sendsAccept] := by
        rw [← hr]
        exact hchanged
      exact hsupplies.serves_settles hplugged hpowered htimer hset hdeadline hlogged (by omega)
  | settles htask hlast htimer hdeadline hnow hlog =>
      have hrun : q.runState b inp = q := by
        unfold runState srcPowered
        rw [htask]
        exact if_neg (by simp [entering_eq_false (hlast.trans htask.symm)])
      rw [hrun, htask]
      exact hq.serves_settles hplugged htask htimer (Nat.ne_of_gt (Nat.zero_lt_of_lt hnow))
        hdeadline hlog (by omega)
  | reports htask hnow hlog => exact absurd htask htransition

/-- The iteration that ends the transition. -/
theorem Serves.iterate_late (hp : p.Supplies polarity) (h : p.Serves idx accepted gap old now)
    (hlate : p.pd.taskState = .srcTransition) {inp : Input} (hstill : inp.still) :
    Shows old (p.pdRunStateMachine b inp).log
      [Call.sendsPsRdy, Call.changesTo idx, Call.sendsAccept] := by
  obtain ⟨hdoes, hq⟩ := hp.beforeSwitch_still b hstill
  have htask : (p.beforeSwitch b inp).pd.taskState = .srcTransition :=
    (hdoes.keeps .task (by decide)).trans hlate
  have hlog : Shows old (p.beforeSwitch b inp).log [Call.changesTo idx, Call.sendsAccept] := by
    cases h with
    | waits hother _ _ _ _ _ => exact absurd (hlate.symm.trans hother) (by decide)
    | turns hother _ _ _ _ => exact absurd (hlate.symm.trans hother) (by decide)
    | settles hother _ _ _ _ _ => exact absurd (hlate.symm.trans hother) (by decide)
    | reports _ _ hlog => exact hlog.later (suffix_of_does hdoes)
  have hrun : (p.beforeSwitch b inp).runState b inp = (p.beforeSwitch b inp).srcTransition := by
    rw [runState, htask]
  rw [pdRunStateMachine, hrun]
  exact (hq.shows_srcTransition hlog).later (suffix_of_does (does_finish _ _ inp))

/-- An iteration of a source that serves a Request. -/
theorem Serves.iterate (hp : p.Supplies polarity) (h : p.Serves idx accepted gap old now)
    {inp : Input} (hstill : inp.still) (hplugged : inp.plugged polarity)
    (htime : inp.time .switch ≤ inp.time .tail) (hgap : inp.time .tail ≤ now + gap) :
    (p.pdRunStateMachine b inp).ServesOrServed polarity idx accepted gap old (inp.time .tail) := by
  by_cases hlate : p.pd.taskState = .srcTransition
  · exact .inl (h.iterate_late hp hlate hstill)
  · exact .inr (h.iterate_early hp hlate hstill hplugged htime hgap)

/-- An event of a source that serves a Request, or has done so. -/
theorem ServesOrServed.step (h : p.ServesOrServed polarity idx accepted gap old now) {e : Event}
    (he : Quiet polarity e) {t : Nat} (ht : e.ends.getD now = t) (hgap : t ≤ now + gap) :
    (p.step b e).ServesOrServed polarity idx accepted gap old t := by
  obtain hdone | ⟨hp, hserves⟩ := h
  · exact .inl (hdone.later (p.suffix_step b e))
  · subst ht
    cases he with
    | iterate hstill hplugged htime => exact hserves.iterate hp hstill hplugged htime hgap
    | alert hfine at' =>
        obtain ⟨hdoes, hq⟩ := hp.alert_fine hfine at'
        exact .inr ⟨hq, hserves.of_does hdoes (by decide)⟩

/-- The handler of an acceptable Request. -/
theorem Supplies.handleRequestMsg (h : p.Supplies polarity) {payload : List Word}
    (hlen : payload.length = 1)
    (hcheck : pdCheckRequestedVoltage b (firstObject payload) = .success) :
    p.handleRequestMsg b payload =
      ((((p.sendControl .accept).2.record .contractAgreed).setFlags
        { p.pd.flags with explicitContract := true }).modifyPd fun pd =>
          { pd with requestedIdx := rdoPos (firstObject payload) }).setState .srcAccepted := by
  have hsent : (p.sendControl .accept).1 = 1 := if_pos h.tx
  unfold Port.handleRequestMsg acceptRequest
  rw [if_pos ⟨h.role, hlen, hcheck⟩]
  simp only
  rw [if_neg (hsent ▸ by decide)]
  rfl

/-- The Accept, and the rest of the iteration that finds the Request. -/
theorem Supplies.serves_request (h : p.Supplies polarity) (htask : p.pd.taskState = .srcNegociate)
    (hlast : p.pd.lastState ≠ .srcAccepted) {inp : Input} {m : PdMsg}
    (hreset : inp.reset = false) (hmessage : inp.message = some m)
    (hrequest : m.isData .request = true) (hacceptable : m.acceptable b = true)
    (hplugged : inp.plugged polarity)
    (hgap : inp.time .tail < inp.time .switch + pdTSinkTransition + gap) (hold : old <:+ p.log) :
    (p.pdRunStateMachine b inp).Supplies polarity ∧ (p.pdRunStateMachine b inp).Serves
      (rdoPos (firstObject m.payload)) (inp.time .switch) gap old (inp.time .tail) := by
  have hbefore := beforeSwitch_message (p := p) b hmessage h.awake
  have hmachine : p.beforeMessage inp = p.pdVdmSendStateMachine (inp.time .vdm) :=
    beforeMessage_noReset hreset
  obtain ⟨hchip, htx⟩ := p.chipState_pdVdmSendStateMachine (inp.time .vdm)
  have hdoes := p.does_dispatching hreset m
  generalize hr : (p.beforeMessage inp).record (.received m) = r at hbefore hdoes
  have hsupplies : r.Supplies polarity := by
    refine h.of_does hdoes (by decide) ?_ ?_
    · rw [← hr, hmachine]
      exact Fusb302.selected_of_chipState hchip
    · rw [← hr, hmachine]
      exact htx.trans h.tx
  have hnegociates : r.pd.taskState = .srcNegociate := (hdoes.keeps .task (by decide)).trans htask
  have hconn : r.pdIsConnected = true := by
    unfold pdIsConnected dualRoleIfElse
    rw [hnegociates, hsupplies.role]
    rfl
  obtain ⟨hlen, hcheck⟩ := of_decide_eq_true hacceptable
  have haccept : (Call.transmit .sop (r.header CtrlMsgType.accept.toNat 0) []
      (if r.pd.txStatus = .success then 1 else -1)).sendsAccept = true :=
    decide_eq_true (headerType_header r (by decide) 0)
  rw [handleRequest_request b r _ hrequest, if_pos hconn] at hbefore
  generalize ha : r.handleRequestMsg b m.payload = a at hbefore
  have haccepted := hsupplies.handleRequestMsg hlen hcheck
  rw [ha] at haccepted
  have hasupplies : a.Supplies polarity := by
    rw [haccepted]
    refine Supplies.setState ?_ rfl
    exact ⟨hsupplies.role, hsupplies.awake, hsupplies.polarity, hsupplies.pullUp, hsupplies.vconn,
      hsupplies.tx⟩
  have halog : Shows old a.log [Call.sendsAccept] := by
    have hstart := (Shows.start old).later (hold.trans (suffix_of_does hdoes))
    have hcalls := (hstart.cons haccept).later (List.suffix_cons Call.contractAgreed _)
    rw [haccepted, setState_log _ (by decide)]
    exact hcalls
  have hentering : a.entering = true := by
    have hra : r.pd.lastState = p.pd.lastState := hdoes.keeps .last (by decide)
    unfold entering
    rw [haccepted]
    simpa [hra] using hlast
  have hatask : a.pd.taskState = .srcAccepted := by
    rw [haccepted]
    simp
  have hidx : a.pd.requestedIdx = rdoPos (firstObject m.payload) := by
    rw [haccepted]
    simp
  have hrun : a.runState b inp =
      a.setStateTimeout (inp.time .switch + pdTSinkTransition) .srcPowered := by
    unfold runState
    rw [hatask]
    exact if_pos hentering
  unfold pdRunStateMachine
  simp only
  rw [hbefore, hatask, hrun]
  refine Supplies.serves_waits ?_ hplugged hatask rfl hidx halog hgap
  exact ⟨hasupplies.role, hasupplies.awake, hasupplies.polarity, hasupplies.pullUp,
    hasupplies.vconn, hasupplies.tx⟩

/-- PS_RDY follows an acceptable Request, with Accept and the change of the voltage before it,
once both timers and three gaps have passed. -/
theorem served_run (b : Board) {p : Port} (h : p.Supplies polarity)
    (htask : p.pd.taskState = .srcNegociate) (hlast : p.pd.lastState ≠ .srcAccepted)
    {inp : Input} {m : PdMsg} (hreset : inp.reset = false) (hmessage : inp.message = some m)
    (hrequest : m.isData .request = true) (hacceptable : m.acceptable b = true)
    (hplugged : inp.plugged polarity) {gap : Nat}
    (hgap : inp.time .tail < inp.time .switch + pdTSinkTransition + gap) {es : List Event}
    (hquiet : ∀ e ∈ es, Quiet polarity e)
    (hpaced : Machine.Paced Event.ends gap (inp.time .tail) es)
    (hlate : inp.time .switch + pdTSinkTransition + pdPowerSupplyTurnOnDelay + 3 * gap ≤
      Machine.latest Event.ends (inp.time .tail) es) :
    Shows p.log (Machine.run (step b) p (.iterate inp :: es)).log
      [Call.sendsPsRdy, Call.changesTo (rdoPos (firstObject m.payload)), Call.sendsAccept] := by
  have hstart := h.serves_request htask hlast hreset hmessage hrequest hacceptable hplugged hgap
    List.suffix_rfl
  have hend : (Machine.run (step b) (p.pdRunStateMachine b inp) es).ServesOrServed polarity
      (rdoPos (firstObject m.payload)) (inp.time .switch) gap p.log
      (Machine.latest Event.ends (inp.time .tail) es) :=
    Machine.run_paced (W := Quiet polarity)
      (R := fun now (q : Port) => q.ServesOrServed polarity (rdoPos (firstObject m.payload))
        (inp.time .switch) gap p.log now)
      (fun now q e hq he hcalm => hq.step he (by rw [hcalm]; rfl) (Nat.le_add_right now gap))
      (fun now q e t hq he ht _ hgap => hq.step he (by rw [ht]; rfl) hgap) (.inr hstart) hquiet
      hpaced
  obtain hserved | ⟨-, hserves⟩ := hend
  · exact hserved
  · exact absurd hserves.now_lt (Nat.not_lt.2 hlate)

/-- A source that has sent its capabilities. -/
def negociates : Port :=
  after .shipped (attachAsSource ++ [iterateAt 200000 rdOnCc1 none, iterateAt 210000 rdOnCc1 none,
    iterateAt 220000 rdOnCc1 none])

/-- An alert for the GoodCRC of the Accept, and an iteration every 10 ms. -/
def afterRequest : List Event :=
  .alert ⟨0, 4, 0⟩ 231000 ::
    [240000, 250000, 260000, 270000, 280000, 290000, 300000, 310000].map
      fun now => .iterate (inputAt now rdOnCc1 none)

theorem served_negociates :
    Shows negociates.log (Machine.run (step .shipped) negociates (.iterate (inputAt 230000 rdOnCc1
      (some (dataMsg .request [rdoFixed 1 500 500 0] one_object_lt))) :: afterRequest)).log
      [Call.sendsPsRdy, Call.changesTo 1, Call.sendsAccept] := by
  have hsupplies : negociates.Supplies false := by
    constructor <;> decide +kernel
  have hplugged : ∀ now message, (inputAt now rdOnCc1 message).plugged false := by
    intro now message
    change rdOnCc1.vnc1 &&& Fusb302.status0Comp = 0
    decide
  have hquiet : ∀ e ∈ afterRequest, Quiet false e := by
    intro e he
    rcases List.mem_cons.1 he with rfl | hmem
    · exact .alert ⟨by decide, by decide, by decide, by decide⟩ _
    · obtain ⟨now, -, rfl⟩ := List.mem_map.1 hmem
      exact .iterate ⟨rfl, rfl⟩ (hplugged now none) (Nat.le_refl _)
  have hpaced : Machine.Paced Event.ends 10000 230000 afterRequest := by
    simp [Machine.Paced, Machine.Timed, Machine.instant, Event.ends, afterRequest, inputAt]
  have hrequest : (dataMsg .request [rdoFixed 1 500 500 0] one_object_lt).isData .request = true :=
    by decide
  exact served_run .shipped hsupplies (by decide +kernel) (by decide +kernel) rfl rfl hrequest
    (by decide) (hplugged _ _) (by decide) hquiet hpaced (by decide)

end Port

end UsbPd
