import UsbPd.Frame.Step
import UsbPd.Tcpc.Bus

/-!
# Still events

Between the messages of a negotiation the partner keeps still: iterations find no message,
and interrupts report nothing but transmissions that succeeded. Such events leave the
negotiation alone until the timer runs out.
-/

namespace UsbPd

/-- Nothing but success is reported. -/
def Interrupts.fine (irq : Interrupts) : Prop :=
  irq.collision = false ∧ irq.retryFail = false ∧ irq.hardSent = false ∧ irq.hardReset = false

/-- The iteration is neither asked for a reset nor finds a message. -/
def Input.still (inp : Input) : Prop := inp.reset = false ∧ inp.message = none

/-- The timer does not run out before `deadline`, and nothing else happens. -/
inductive Still (deadline : Nat) : Event → Prop
  | iterate {inp : Input} (h : inp.still) (htime : inp.time .tail < deadline) :
      Still deadline (.iterate inp)
  | alert {irq : Interrupts} (h : irq.fine) (now : Nat) : Still deadline (.alert irq now)

/-- The end of an iteration. -/
def Event.ends : Event → Option Nat
  | .iterate inp => some (inp.time .tail)
  | _ => none

/-- Nothing happens while the cable measures as `reads`; an iteration takes `gap` at most from
its switch to its end. -/
inductive Steady (reads : CcReading → Prop) (gap : Nat) : Event → Prop
  | iterate {inp : Input} (h : inp.still) (hcc : reads inp.cc) (htail : reads inp.ccTail)
      (htime : inp.time .switch ≤ inp.time .tail)
      (hshort : inp.time .tail ≤ inp.time .switch + gap) : Steady reads gap (.iterate inp)
  | alert {irq : Interrupts} (h : irq.fine) (now : Nat) : Steady reads gap (.alert irq now)

/-- Some events, and the iteration that ends the wait. -/
structure Stage where
  waits : List Event
  inp : Input

namespace Stage

variable (s : Stage)

def events : List Event := s.waits ++ [.iterate s.inp]

/-- The events are still until `deadline`, and the iteration finds `m`. -/
structure Hears (deadline : Nat) (m : PdMsg) : Prop where
  still : ∀ e ∈ s.waits, Still deadline e
  reset : s.inp.reset = false
  message : s.inp.message = some m

/-- The iteration ends before a timer of `wait` that its switch starts. -/
def Prompt (wait : Nat) : Prop := s.inp.time .tail < s.inp.time .switch + wait

instance (wait : Nat) : Decidable (s.Prompt wait) := inferInstanceAs (Decidable (_ < _))

end Stage

namespace Port

/-- The iteration that `iterateAt` describes. -/
def inputAt (now : Nat) (cc : CcReading) (message : Option PdMsg) : Input where
  reset := false
  message := message
  cc := cc
  ccTail := cc
  time := fun _ => now

variable {p : Port}

/-- Without a reset only a VDM can go out ahead of the message. -/
theorem beforeMessage_noReset {inp : Input} (h : inp.reset = false) :
    p.beforeMessage inp = p.pdVdmSendStateMachine (inp.time .vdm) := by
  unfold beforeMessage
  rw [checkBoardAndEvents_eq, h]
  rfl

theorem does_beforeMessage_noReset {inp : Input} (h : inp.reset = false) :
    Does [.vdm, .chip] [.sop] p (p.beforeMessage inp) := by
  rw [beforeMessage_noReset h]
  exact p.does_pdVdmSendStateMachine _

/-- The port as it hands over a message. -/
theorem does_dispatching {inp : Input} (h : inp.reset = false) (m : PdMsg) :
    Does [.vdm, .chip] [.sop, .received] p ((p.beforeMessage inp).record (.received m)) := by
  have hreceived : Does [] [.received] (p.beforeMessage inp)
      ((p.beforeMessage inp).record (.received m)) := does_record _ (.received m)
  exact ((does_beforeMessage_noReset h).trans hreceived).mono (by decide)

theorem applySuspend_awake (h : p.pd.reqSuspendState = false) : p.applySuspend = p := by
  unfold applySuspend
  rw [if_neg (by rw [h]; decide)]

/-- Without a message the switch follows. -/
theorem beforeSwitch_still (b : Board) {inp : Input} (h : inp.still)
    (hawake : p.pd.reqSuspendState = false) : p.beforeSwitch b inp = p.beforeMessage inp := by
  have hbefore : Does [.vdm, .chip] [.sop] p (p.beforeMessage inp) :=
    does_beforeMessage_noReset h.1
  have hreceive : (p.beforeMessage inp).receive b inp = p.beforeMessage inp := by
    unfold receive
    rw [h.2]
  have hsuspend : (p.beforeMessage inp).pd.reqSuspendState = false :=
    (hbefore.keeps .suspend (by decide)).trans hawake
  unfold beforeSwitch
  rw [hreceive, applySuspend_awake hsuspend]

theorem does_beforeSwitch_still (b : Board) {inp : Input} (h : inp.still)
    (hawake : p.pd.reqSuspendState = false) :
    Does [.vdm, .chip] [.sop] p (p.beforeSwitch b inp) := by
  rw [beforeSwitch_still b h hawake]
  exact does_beforeMessage_noReset h.1

/-- The switch finds the port as the message leaves it. -/
theorem beforeSwitch_message (b : Board) {inp : Input} {m : PdMsg} (hmessage : inp.message = some m)
    (hawake : p.pd.reqSuspendState = false) : p.beforeSwitch b inp =
      ((p.beforeMessage inp).record (.received m)).handleRequest b (inp.time .message) m := by
  have hreceive : (p.beforeMessage inp).receive b inp =
      ((p.beforeMessage inp).record (.received m)).handleRequest b (inp.time .message) m := by
    unfold receive
    rw [hmessage]
  have hsuspend : ((p.beforeMessage inp).receive b inp).pd.reqSuspendState = false :=
    (((does_beforeMessage p inp).trans (does_receive _ b inp)).keeps .suspend (by decide)).trans
      hawake
  rw [beforeSwitch, applySuspend_awake hsuspend, hreceive]

theorem chipState_measureCcPinSource (c : Fusb302) (pin2 : Bool) (vnc rd : BitVec 8) :
    (c.measureCcPinSource pin2 vnc rd).2.chipState = c.chipState := by
  unfold Fusb302.measureCcPinSource
  simp only
  split_ifs <;> rfl

/-- A measurement leaves the record of the chip alone. -/
theorem chipState_tcpmGetCc (p : Port) (r : CcReading) :
    (p.tcpmGetCc r).chip.chipState = p.chip.chipState := by
  change (p.chip.getCc r p.st.cc1 p.st.cc2).2.2.chipState = p.chip.chipState
  unfold Fusb302.getCc Fusb302.detectCcPinSourceManual
  simp only
  split_ifs
  · exact chipState_measureCcPinSource _ _ _ _
  · exact chipState_measureCcPinSource _ _ _ _
  · exact (chipState_measureCcPinSource _ _ _ _).trans (chipState_measureCcPinSource _ _ _ _)
  · rfl

/-- A queued VDM does not touch the record of the chip. -/
theorem chipState_pdVdmSendStateMachine (p : Port) (now : Nat) :
    (p.pdVdmSendStateMachine now).chip.chipState = p.chip.chipState ∧
      (p.pdVdmSendStateMachine now).pd.txStatus = p.pd.txStatus := by
  have hsent : (p.sendQueuedVdm now).chip.chipState = p.chip.chipState ∧
      (p.sendQueuedVdm now).pd.txStatus = p.pd.txStatus := by
    unfold sendQueuedVdm
    simp only
    split_ifs <;> exact ⟨rfl, rfl⟩
  unfold pdVdmSendStateMachine
  split
  · split_ifs <;> first | exact hsent | exact ⟨rfl, rfl⟩
  · split_ifs <;> exact ⟨rfl, rfl⟩
  · split_ifs <;> exact ⟨rfl, rfl⟩
  · exact ⟨rfl, rfl⟩

/-- The record of the chip and the status as the switch of a still iteration finds them. -/
theorem chipState_beforeSwitch_still (b : Board) {inp : Input} (h : inp.still)
    (hawake : p.pd.reqSuspendState = false) :
    (p.beforeSwitch b inp).chip.chipState = p.chip.chipState ∧
      (p.beforeSwitch b inp).pd.txStatus = p.pd.txStatus := by
  rw [beforeSwitch_still b h hawake, beforeMessage_noReset h.1]
  exact p.chipState_pdVdmSendStateMachine (inp.time .vdm)

/-- An interrupt that reports success keeps the status, too. -/
theorem does_tcpcAlert_fine {irq : Interrupts} (h : irq.fine) (now : Nat) :
    Does [.link, .chip] [.alert] p (p.tcpcAlert irq now) ∧
      (p.pd.txStatus = .success → (p.tcpcAlert irq now).pd.txStatus = .success) := by
  obtain ⟨hcollision, hretry, hsent, hreset⟩ := h
  have hpolled : Does [] [.alert] p (p.record (.alert irq)) := p.does_record (.alert irq)
  have hreported := hpolled.trans (does_completeTransmissions _ irq)
  have hcomplete : (p.record (.alert irq)).completeTransmissions irq =
      if irq.txSuccess = true then (p.record (.alert irq)).pdTransmitComplete .success
      else p.record (.alert irq) := by
    unfold completeTransmissions
    rw [hcollision, hretry, hsent]
    rfl
  have hstatus : p.pd.txStatus = .success →
      ((p.record (.alert irq)).completeTransmissions irq).pd.txStatus = .success := fun hp => by
    rw [hcomplete]
    split_ifs
    · rfl
    · exact hp
  unfold tcpcAlert
  rw [hreset]
  simp only [Bool.false_eq_true, if_false]
  split_ifs
  · refine ⟨?_, hstatus⟩
    exact (hreported.trans (does_modifyChip (f := Fusb302.flushRxFifo) _ rfl)).mono (by decide)
  · exact ⟨hreported.mono (by decide), hstatus⟩

theorem chipState_tcpcAlert_fine {irq : Interrupts} (h : irq.fine) (now : Nat) :
    (p.tcpcAlert irq now).chip.chipState = p.chip.chipState := by
  obtain ⟨hcollision, hretry, hsent, hreset⟩ := h
  unfold tcpcAlert completeTransmissions
  simp only [hcollision, hretry, hsent, hreset, Bool.false_eq_true, if_false]
  split_ifs <;> rfl

end Port

end UsbPd
