import UsbPd.Frame.States
import UsbPd.System.Run

/-!
# Write sets of a step

The phases of an iteration and the calls from outside.
-/

namespace UsbPd

namespace Port

variable (p : Port)

theorem does_applyReset (reset : Bool) : Does [.task] [] p (p.applyReset reset) := by
  unfold applyReset
  split_ifs
  · exact p.does_setTask _
  · exact p.does_nothing _ _

/-- The iteration up to its message. -/
theorem does_beforeMessage (inp : Input) :
    Does [.task, .vdm, .chip] [.sop] p (p.beforeMessage inp) := by
  unfold beforeMessage
  rw [checkBoardAndEvents_eq]
  exact ((p.does_applyReset _).trans (does_pdVdmSendStateMachine _ _)).mono (by decide)

theorem does_receive (b : Board) (inp : Input) :
    Does messageWrites messageCalls p (p.receive b inp) := by
  unfold receive
  cases inp.message with
  | none => exact p.does_nothing _ _
  | some m =>
      have hhandled := (p.does_record (.received m)).trans
        (does_handleRequest _ b (inp.time .message) m)
      refine hhandled.mono ⟨m.writes_subset, ?_⟩
      exact List.append_subset.2 ⟨by simp [messageCalls, Call.kind], m.calls_subset⟩

theorem does_applySuspend :
    Does [.task, .timer, .chip] [.noCurrent, .vbus, .rxEnable] p p.applySuspend := by
  unfold applySuspend
  split_ifs
  · exact p.does_setState _
  · exact p.does_nothing _ _

/-- The iteration up to the switch. -/
theorem does_beforeSwitch (b : Board) (inp : Input) :
    Does messageWrites messageCalls p (p.beforeSwitch b inp) :=
  (((p.does_beforeMessage inp).trans (does_receive _ b inp)).trans (does_applySuspend _)).mono
    (by decide)

theorem does_checkTimeout (now : Nat) :
    Does [.task, .timer, .chip] [.noCurrent, .vbus, .rxEnable] p (p.checkTimeout now) := by
  unfold checkTimeout
  split_ifs
  · exact p.does_setState _
  · exact p.does_nothing _ _

theorem does_checkSourceDetach (inp : Input) :
    Does [.chip, .cc, .task, .timer] [.detach, .noCurrent, .vbus, .rxEnable] p
      (p.checkSourceDetach inp) := by
  have hcc1 : ∀ q : Port, Does [.cc] [] q (q.modifySt fun st => { st with cc1 := st.cc2 }) :=
    fun q => .assign (by rintro ⟨⟩ hx <;> first | rfl | simp at hx) rfl
  unfold checkSourceDetach
  split
  · simp only [pdTrySrcEnable, Bool.false_eq_true, if_false]
    generalize hq : (if (p.tcpmGetCc inp.ccTail).pd.polarity = true then
        (p.tcpmGetCc inp.ccTail).modifySt fun st => { st with cc1 := st.cc2 }
      else p.tcpmGetCc inp.ccTail) = q
    have hmeasured : Does [.chip, .cc] [] p q := by
      rw [← hq]
      split
      · exact ((p.does_tcpmGetCc _).trans (hcc1 _)).mono (by decide)
      · exact p.does_tcpmGetCc _
    split_ifs
    · exact ((hmeasured.trans (does_record _ .detach)).trans (does_setState _ _)).mono (by decide)
    · exact hmeasured.mono (by decide)
  · exact p.does_nothing _ _

/-- The tail of an iteration. -/
theorem does_finish (thisState : PdState) (inp : Input) :
    Does [.last, .task, .timer, .chip, .cc] [.detach, .noCurrent, .vbus, .rxEnable] p
      (p.finish thisState inp) := by
  have hchecked := (p.does_setLast thisState).trans (does_checkTimeout _ (inp.time .tail))
  unfold finish
  simp only [checkSinkDetach_eq]
  split_ifs
  · exact hchecked.mono (by decide)
  · exact (hchecked.trans (does_checkSourceDetach _ inp)).mono (by decide)

theorem does_completeTransmissions (irq : Interrupts) :
    Does [.link, .chip] [] p (p.completeTransmissions irq) := by
  have hcomplete : ∀ (q : Port) (status : TxStatus), Does [.link] [] q
      (q.pdTransmitComplete status) := by
    intro q status
    cases status <;>
      exact .assign (by rintro ⟨⟩ hx <;> first | rfl | simp at hx) rfl
  have hreport : ∀ (q : Port) (c : Bool) (status : TxStatus), Does [.link, .chip] [] p q →
      Does [.link, .chip] [] p (if c = true then q.pdTransmitComplete status else q) := by
    intro q c status hq
    split
    · exact (hq.trans (hcomplete q status)).mono (by decide)
    · exact hq
  have hthree := hreport _ irq.retryFail .failed (hreport _ irq.txSuccess .success
    (hreport p irq.collision .failed (p.does_nothing _ _)))
  unfold completeTransmissions
  simp only
  split
  · exact ((hthree.trans (does_modifyChip (f := Fusb302.pdReset) _ rfl)).trans
      (hcomplete _ .success)).mono (by decide)
  · exact hthree

end Port

/-- What an event other than an iteration writes. -/
def Event.writes : Event → List Part
  | .iterate _ => []
  | .alert _ _ => [.link, .chip, .last, .task, .timer, .recover]
  | .softReset | .requestPowerSwap | .requestDataSwap => [.task, .timer]
  | .sendVdm _ _ _ => [.vdm]
  | .setDualRole _ => [.drpState]
  | .pingEnable _ => [.pingEnabled]
  | .setNewPowerRequest => [.newPowerRequest]
  | .vbusLow => [.vbusNeverLow]
  | .setMaxVoltage _ => [.maxRequestMv]
  | .button => [.index]

/-- The calls that it leads to. -/
def Event.calls : Event → List CallKind
  | .alert _ _ => [.alert, .executeHardReset, .msgIdReset, .vbus, .noCurrent]
  | _ => []

/-- The event is an iteration. -/
def Event.iterates : Event → Bool
  | .iterate _ => true
  | _ => false

namespace Port

variable (p : Port)

theorem does_tcpcAlert (irq : Interrupts) (now : Nat) :
    Does [.link, .chip, .last, .task, .timer, .recover]
      [.alert, .executeHardReset, .msgIdReset, .vbus, .noCurrent] p (p.tcpcAlert irq now) := by
  have hpolled : Does [] [.alert] p (p.record (.alert irq)) := p.does_record (.alert irq)
  have hreported := hpolled.trans (does_completeTransmissions _ irq)
  unfold tcpcAlert
  simp only
  generalize hq : (if irq.hardReset = true then _ else _ : Port) = q
  have hreset : Does [.link, .chip, .last, .task, .timer, .recover]
      [.alert, .executeHardReset, .msgIdReset, .vbus, .noCurrent] p q := by
    rw [← hq]
    split
    · exact ((hreported.trans (does_modifyChip (f := Fusb302.pdReset) _ rfl)).trans
        (does_pdExecuteHardReset _ now)).mono (by decide)
    · exact hreported.mono (by decide)
  split
  · exact (hreset.trans (does_modifyChip (f := Fusb302.flushRxFifo) _ rfl)).mono (by decide)
  · exact hreset

/-- A call from outside writes what the event says. -/
theorem does_call (b : Board) {e : Event} (he : e.iterates = false) :
    Does e.writes e.calls p (p.step b e) := by
  have hstate : ∀ s, s ≠ .srcDisconnected ∧ s ≠ .snkDisconnected →
      Does [.task, .timer] [] p (p.setState s) := fun s hs => p.does_setState_of_ne hs
  cases e with
  | iterate => cases he
  | alert irq now => exact p.does_tcpcAlert irq now
  | softReset =>
      change Does _ _ p p.pdSoftReset
      unfold pdSoftReset
      split_ifs
      · exact hstate _ (by decide)
      · exact p.does_nothing _ _
  | requestPowerSwap =>
      change Does _ _ p p.pdRequestPowerSwap
      unfold pdRequestPowerSwap
      split_ifs
      · exact hstate _ (by decide)
      · exact hstate _ (by decide)
      · exact p.does_nothing _ _
  | requestDataSwap =>
      change Does _ _ p p.pdRequestDataSwap
      unfold pdRequestDataSwap
      split_ifs
      · exact hstate _ (by decide)
      · exact p.does_nothing _ _
  | sendVdm vid cmd data => exact p.does_pdSendVdm vid cmd data
  | _ =>
      refine .assign (fun x hx => ?_) rfl
      cases x <;> first | rfl | exact absurd (List.mem_cons_self ..) hx

end Port

end UsbPd
