import UsbPd.Link.Wire
import UsbPd.Machine.Stage
import UsbPd.System.Still
import UsbPd.Tcpc.Measure

/-!
# A port that watches its pins

Both disconnected states wait for a level on the pins of the plug. The first iteration that
finds it goes on to the debounce state, the next one starts the debounce, and the first one
after its end attaches the partner. So the partner is attached less than four gaps between
iterations after the time of the debounce.
-/

namespace UsbPd

/-- A plug with the CC wire on pin 2 when it is flipped. -/
def Cable.plug (flipped : Bool) (cc other : Pin) : Cable :=
  if flipped then ⟨other, cc⟩ else ⟨cc, other⟩

namespace MeasureBlock

variable (block : MeasureBlock) (cable : Cable)

/-- The level of a pin that is pulled up, with the references for default USB power. -/
def upLevel (pin : Pin) : CcVoltage :=
  block.sourceLevel (Fusb302.measureMdacMv 1600) (Fusb302.measureMdacMv 200) (pin true false)

/-- The level of a pin that is pulled down. -/
def downLevel (pin : Pin) : CcVoltage := block.sinkLevel (pin false true)

/-- The level of a pin by the resistor of the role. -/
def roleLevel (role : PowerRole) (pin : Pin) : CcVoltage :=
  role.ifElse (block.downLevel pin) (block.upLevel pin)

/-- The two comparisons with these references. -/
def compares (pin : Pin) (vnc rd : Byte) : Prop :=
  vnc = block.comparator (Fusb302.measureMdacMv 1600) (pin true false) ∧
    rd = block.comparator (Fusb302.measureMdacMv 200) (pin true false)

/-- What a chip measures on the cable, by the resistor of the role. -/
def Reads (role : PowerRole) (r : CcReading) : Prop :=
  role.ifElse (r.bcLvl1 = block.bcLvl (cable.pin1 false true) ∧
      r.bcLvl2 = block.bcLvl (cable.pin2 false true))
    (block.compares cable.pin1 r.vnc1 r.rd1 ∧ block.compares cable.pin2 r.vnc2 r.rd2)

end MeasureBlock

namespace PowerRole

def unplugged (role : PowerRole) : PdState := role.ifElse .snkDisconnected .srcDisconnected

def debouncing (role : PowerRole) : PdState :=
  role.ifElse .snkDisconnectedDebounce .srcDisconnectedDebounce

end PowerRole

namespace Port

variable {b : Board} {p q : Port} {old : List Call} {role : PowerRole} {s : PdState}

/-- A port in `s` that has no timer, after the calls `old`; the chip presents the resistor of the
role and no VCONN. -/
structure Watches (old : List Call) (role : PowerRole) (s : PdState) (p : Port) : Prop where
  powerRole : p.pd.powerRole = role
  awake : p.pd.reqSuspendState = false
  task : p.pd.taskState = s
  tx : p.pd.txStatus = .success
  timer : p.pd.timeout = 0
  trySrc : p.pd.flags.trySrc = false
  chip : (p.chip.pullingUp, p.chip.vconnEnabled, p.chip.mdacVnc, p.chip.mdacRd) =
    (decide (role = .source), false, Fusb302.measureMdacMv 1600, Fusb302.measureMdacMv 200)
  log : old <:+ p.log

/-- The port looks for a partner. -/
def Unplugged (role : PowerRole) (p : Port) : Prop := p.Watches p.log role role.unplugged

namespace Watches

theorem of_does (h : p.Watches old role s) {W : List Part} {K : List CallKind}
    (hdoes : Does W K p q)
    (hW : .role ∉ W ∧ .suspend ∉ W ∧ .task ∉ W ∧ .timer ∉ W ∧ .trySrc ∉ W)
    (hchip : q.chip.chipState = p.chip.chipState) (htx : q.pd.txStatus = p.pd.txStatus) :
    q.Watches old role s where
  powerRole := (hdoes.keeps .role hW.1).trans h.powerRole
  awake := (hdoes.keeps .suspend hW.2.1).trans h.awake
  task := (hdoes.keeps .task hW.2.2.1).trans h.task
  tx := htx.trans h.tx
  timer := (congrArg Prod.fst (hdoes.keeps .timer hW.2.2.2.1)).trans h.timer
  trySrc := (hdoes.keeps .trySrc hW.2.2.2.2).trans h.trySrc
  chip := (congrArg (fun c : ChipState => (c.pullingUp, c.vconnEnabled, c.mdacVnc, c.mdacRd))
    hchip).trans h.chip
  log := h.log.trans (suffix_of_does hdoes)

theorem setLast (h : p.Watches old role s) (last : PdState) :
    (p.setLast last).Watches old role s :=
  ⟨h.powerRole, h.awake, h.task, h.tx, h.timer, h.trySrc, h.chip, h.log⟩

/-- The port as the switch of a still iteration finds it. -/
theorem beforeSwitch (h : p.Watches old role s) (b : Board) {inp : Input} (hstill : inp.still) :
    (p.beforeSwitch b inp).Watches old role s ∧
      (p.beforeSwitch b inp).pd.ccDebounce = p.pd.ccDebounce ∧
      (p.beforeSwitch b inp).pd.ccState = p.pd.ccState := by
  have hdoes := does_beforeSwitch_still b hstill h.awake
  obtain ⟨hchip, htx⟩ := chipState_beforeSwitch_still b hstill h.awake
  exact ⟨h.of_does hdoes (by decide) hchip htx,
    Prod.mk.inj (hdoes.keeps .debounce (by decide))⟩

/-- An interrupt that reports success changes nothing either. -/
theorem alert_fine (h : p.Watches old role s) {irq : Interrupts} (hfine : irq.fine) (now : Nat) :
    (p.tcpcAlert irq now).Watches old role s ∧
      (p.tcpcAlert irq now).pd.ccDebounce = p.pd.ccDebounce ∧
      (p.tcpcAlert irq now).pd.ccState = p.pd.ccState := by
  obtain ⟨hdoes, htx⟩ := p.does_tcpcAlert_fine hfine now
  exact ⟨h.of_does hdoes (by decide) (chipState_tcpcAlert_fine hfine now)
      ((htx h.tx).trans h.tx.symm), Prod.mk.inj (hdoes.keeps .debounce (by decide))⟩

/-- A measurement finds the levels of the pins. -/
theorem tcpmGetCc (h : p.Watches old role s) {block : MeasureBlock} {cable : Cable}
    {r : CcReading} (hr : block.Reads cable role r) : (p.tcpmGetCc r).Watches old role s ∧
      (p.tcpmGetCc r).st.cc1 = block.roleLevel role cable.pin1 ∧
      (p.tcpmGetCc r).st.cc2 = block.roleLevel role cable.pin2 := by
  refine ⟨h.of_does (p.does_tcpmGetCc r) (by decide) (p.chipState_tcpmGetCc r) rfl, ?_⟩
  have hchip := h.chip
  simp only [Prod.mk.injEq] at hchip
  obtain ⟨hpull, hvconn, hvnc, hrd⟩ := hchip
  cases role with
  | sink => exact block.getCc_pullDown hpull hr.1 hr.2 p.st.cc1 p.st.cc2
  | source =>
      obtain ⟨⟨hvnc1, hrd1⟩, hvnc2, hrd2⟩ := hr
      have hlevels := block.getCc_pullUp (c := p.chip) (r := r) hpull hvconn
        (by rw [hvnc, hvnc1]) (by rw [hrd, hrd1]) (by rw [hvnc, hvnc2]) (by rw [hrd, hrd2])
        p.st.cc1 p.st.cc2
      rw [hvnc, hrd] at hlevels
      exact hlevels

/-- Without a timer the tail of a disconnected state only notes the state. -/
theorem finish (h : p.Watches old role s) (hs : s = role.unplugged ∨ s = role.debouncing)
    (thisState : PdState) (inp : Input) : p.finish thisState inp = p.setLast thisState := by
  have htimer : (p.setLast thisState).checkTimeout (inp.time .tail) = p.setLast thisState :=
    if_neg fun hout => hout.1 h.timer
  have hconn : (p.setLast thisState).pdIsConnected = false := by
    unfold pdIsConnected dualRoleIfElse
    rw [show (p.setLast thisState).pd.taskState = s from h.task,
      show (p.setLast thisState).pd.powerRole = role from h.powerRole]
    rcases hs with rfl | rfl <;> cases role <;> rfl
  unfold Port.finish
  simp only
  rw [htimer, hconn, if_pos (.inl (by decide))]

end Watches

/-! The debounce. -/

/-- The way to the attach of a partner, from the time `start` on; `now` is the end of the last
iteration. -/
inductive Approaches (old : List Call) (role : PowerRole) (found : CcState) (start gap now : Nat)
    (p : Port) : Prop
  | detached (h : p.Watches old role role.unplugged) (hnow : now ≤ start)
  | detects (h : p.Watches old role role.debouncing) (hstate : p.pd.ccState = .none)
      (hnow : now ≤ start + gap)
  | debounces (h : p.Watches old role role.debouncing) (hstate : p.pd.ccState = found)
      (hdebounce : p.pd.ccDebounce ≤ start + pdTCcDebounce + 2 * gap)
      (hnow : now < p.pd.ccDebounce + gap)

namespace Approaches

variable {found : CcState} {start gap now : Nat}

/-- The approach lasts less than the time of the debounce and three gaps. -/
theorem lt_of_approaches (h : p.Approaches old role found start gap now) :
    now < start + pdTCcDebounce + 3 * gap := by
  have hpositive : 0 < pdTCcDebounce := by decide
  cases h with
  | detached h hnow => omega
  | detects h hstate hnow => omega
  | debounces h hstate hdebounce hnow => omega

theorem alert_fine (h : p.Approaches old role found start gap now) {irq : Interrupts}
    (hfine : irq.fine) (time : Nat) :
    (p.tcpcAlert irq time).Approaches old role found start gap now := by
  cases h with
  | detached h hnow => exact .detached (h.alert_fine hfine time).1 hnow
  | detects h hstate hnow =>
      obtain ⟨hwatches, -, hkept⟩ := h.alert_fine hfine time
      exact .detects hwatches (hkept.trans hstate) hnow
  | debounces h hstate hdebounce hnow =>
      obtain ⟨hwatches, hdeadline, hkept⟩ := h.alert_fine hfine time
      refine .debounces hwatches (hkept.trans hstate) ?_ ?_
      · rwa [hdeadline]
      · rwa [hdeadline]

/-- The switch of a disconnected state finds the level. -/
def Finds (b : Board) (old : List Call) (role : PowerRole) (inp : Input) : Prop :=
  ∀ q : Port, q.Watches old role role.unplugged →
    (q.runState b inp).Watches old role role.debouncing ∧ (q.runState b inp).pd.ccState = .none

/-- The switch of a debounce state waits until the level `found` has lasted. -/
def Debounces (b : Board) (old : List Call) (role : PowerRole) (found : CcState)
    (attach : Port → Port) (inp : Input) : Prop :=
  ∀ q : Port, q.Watches old role role.debouncing →
    (q.tcpmGetCc inp.cc).Watches old role role.debouncing ∧ q.runState b inp =
      if found ≠ q.pd.ccState then
        (q.tcpmGetCc inp.cc).modifyPd fun pd => { pd with
          ccDebounce := inp.time .switch + pdTCcDebounce, ccState := found }
      else if inp.time .switch < q.pd.ccDebounce then q.tcpmGetCc inp.cc
      else attach (q.tcpmGetCc inp.cc)

/-- A still iteration stays on the way, or attaches the partner. -/
theorem iterate (h : p.Approaches old role found start gap now) {attach : Port → Port}
    (hfound : found ≠ .none) {inp : Input} (hstill : inp.still)
    (hfinds : Finds b old role inp) (hdebounces : Debounces b old role found attach inp)
    (htime : inp.time .switch ≤ inp.time .tail)
    (hshort : inp.time .tail ≤ inp.time .switch + gap) (hlate : inp.time .tail ≤ now + gap) :
    (p.pdRunStateMachine b inp).Approaches old role found start gap (inp.time .tail) ∨
      ∃ q : Port, q.Watches old role role.debouncing ∧ p.pdRunStateMachine b inp =
        (attach (q.tcpmGetCc inp.cc)).finish role.debouncing inp := by
  cases h with
  | detached h hnow =>
      obtain ⟨hbefore, -⟩ := h.beforeSwitch b hstill
      obtain ⟨hwatch, hstate⟩ := hfinds _ hbefore
      left
      rw [pdRunStateMachine, hwatch.finish (.inr rfl)]
      exact .detects (hwatch.setLast _) hstate (by omega)
  | detects h hstate hnow =>
      obtain ⟨hbefore, -, hnone⟩ := h.beforeSwitch b hstill
      obtain ⟨hwatch, hrun⟩ := hdebounces _ hbefore
      rw [hnone, hstate, if_pos hfound] at hrun
      have hstarted : ((p.beforeSwitch b inp).runState b inp).Watches old role
          role.debouncing := by
        rw [hrun]
        exact ⟨hwatch.powerRole, hwatch.awake, hwatch.task, hwatch.tx, hwatch.timer, hwatch.trySrc,
          hwatch.chip, hwatch.log⟩
      left
      rw [pdRunStateMachine, hstarted.finish (.inr rfl)]
      refine .debounces (hstarted.setLast _) ?_ ?_ ?_
      · rw [hrun]
        rfl
      · rw [hrun]
        change inp.time .switch + pdTCcDebounce ≤ start + pdTCcDebounce + 2 * gap
        omega
      · rw [hrun]
        change inp.time .tail < inp.time .switch + pdTCcDebounce + gap
        have hpositive : 0 < pdTCcDebounce := by decide
        omega
  | debounces h hstate hdebounce hnow =>
      obtain ⟨hbefore, hdeadline, hkept⟩ := h.beforeSwitch b hstill
      obtain ⟨hwatch, hrun⟩ := hdebounces _ hbefore
      rw [hkept, hstate, if_neg (not_not.2 rfl), hdeadline] at hrun
      by_cases hearly : inp.time .switch < p.pd.ccDebounce
      · rw [if_pos hearly] at hrun
        left
        rw [pdRunStateMachine, hrun, hwatch.finish (.inr rfl)]
        refine .debounces (hwatch.setLast _) (hkept.trans hstate) ?_ ?_
        · change (p.beforeSwitch b inp).pd.ccDebounce ≤ _
          rwa [hdeadline]
        · change inp.time .tail < (p.beforeSwitch b inp).pd.ccDebounce + gap
          omega
      · rw [if_neg hearly] at hrun
        right
        refine ⟨_, hbefore, ?_⟩
        rw [pdRunStateMachine, hrun, hbefore.task]

end Approaches

/-- Steady events keep the property, unless the goal is reached. -/
theorem steady_reaches {reads : CcReading → Prop} {gap start : Nat} {R : Nat → Port → Prop}
    {G : Nat → Port → Prop}
    (halert : ∀ now q irq time, R now q → Interrupts.fine irq → R now (q.tcpcAlert irq time))
    (hiterate : ∀ now q inp, R now q → inp.still → reads inp.cc → reads inp.ccTail →
      inp.time .switch ≤ inp.time .tail → inp.time .tail ≤ inp.time .switch + gap →
      inp.time .tail ≤ now + gap →
      R (inp.time .tail) (q.pdRunStateMachine b inp) ∨
        G (inp.time .tail) (q.pdRunStateMachine b inp))
    (hp : R start p) {es : List Event} (hsteady : ∀ e ∈ es, Steady reads gap e)
    (hpaced : Machine.Paced Event.ends gap start es) :
    R (Machine.latest Event.ends start es) (Machine.run (step b) p es) ∨
      Machine.Reaches (Machine.instant Event.ends) (step b) G start p es := by
  refine Machine.paced_reaches (fun now q e hq he hnone => ?_) (fun now q e t hq he ht _ hgap => ?_)
    hp hsteady hpaced
  · cases he with
    | iterate => cases hnone
    | alert hfine time => exact halert now q _ time hq hfine
  · cases he with
    | alert => cases ht
    | iterate hstill hr htail htime hshort =>
        cases ht
        exact hiterate now q _ hq hstill hr htail htime hshort hgap

/-! A plug. -/

/-- What a plug measures as. -/
def plugLevels (flipped : Bool) (level idle : CcVoltage) : CcVoltage × CcVoltage :=
  if flipped then (idle, level) else (level, idle)

theorem eq_plugLevels {flipped : Bool} {level idle cc1 cc2 : CcVoltage}
    (h : (cc1, cc2) = plugLevels flipped level idle) :
    (flipped = true ∧ cc1 = idle ∧ cc2 = level) ∨
      (flipped = false ∧ cc1 = level ∧ cc2 = idle) := by
  cases flipped with
  | true => exact .inl ⟨rfl, Prod.mk.inj h⟩
  | false => exact .inr ⟨rfl, Prod.mk.inj h⟩

theorem Watches.plugged (h : p.Watches old role s) {block : MeasureBlock} {flipped : Bool}
    {cc other : Pin} {r : CcReading} (hr : block.Reads (.plug flipped cc other) role r) :
    ((p.tcpmGetCc r).st.cc1, (p.tcpmGetCc r).st.cc2) =
      plugLevels flipped (block.roleLevel role cc) (block.roleLevel role other) := by
  obtain ⟨-, hcc1, hcc2⟩ := h.tcpmGetCc hr
  rw [hcc1, hcc2]
  cases flipped with
  | true => rfl
  | false => rfl

/-- A chip that compares with the steps of the driver's MDAC codes. -/
def usualBlock : MeasureBlock where
  mdac := fun code => 42 * (code.toNat + 1)
  bcLvl := fun v => if v < 200 then 0 else if v < 660 then 1 else if v < 1230 then 2 else 3
  floating := 0

/-- A wire with nothing on it. -/
def openWire : Pin := fun up _ => if up then 3300 else 0

end Port

end UsbPd
